import Gatehouse.Proofs.CommandLine.Arguments
import Gatehouse.Proofs.CommandLine.Output
import Gatehouse.Proofs.Secrets

/-!
# Signing and redeeming

What is signed for a manifest on one deployment is good on every other that is pinned to
the same secret. The line that signing prints is handed in as an argument or as a file,
with whatever blank characters around it: it is taken for neither an option nor the name
of a file. Verifying it prints the claims of the manifest, and a run with a manifest of
the same claims is turned away for neither its token nor its manifest. Only what stands
in front of a verb can keep it from printing, such as a directory for logs that cannot be
made.
-/

namespace Gatehouse

open Json

/-! ## The token -/

/-- A token begins with the first digit of its header, which is a letter. -/
theorem Issuer.head?_tokenText (secret : List UInt8) (value : Value) :
    ((Issuer.hs256 secret).tokenText value).toList.head? = some 'e' := by
  have header : (part (Text.Utf8.encode (header (Issuer.hs256 secret).algorithm).render)).head? =
      some 'e' := by
    show (part (Text.Utf8.encode (Issuer.header .hs256).render)).head? = some 'e'
    decide +kernel
  rw [tokenText, String.toList_ofList, CompactToken.joined, List.head?_append, header,
    Option.some_or]

/-- A run of the claims that its token stands for is turned away for neither of them: the token is
verified, and claims differ from themselves in no field. What else can go wrong has another code. -/
theorem Runner.exitCode_ne_of_vouched {σ ε : Type} {runner : Runner σ ε} {claims : TaskClaims}
    {token : String} (vouched : runner.gate.token.verify token = .ok claims) {now : Instant}
    {state : σ × ε} {error : RunError}
    (failed : (runner.run claims token now state).1.result = .error error) :
    error.exitCode ≠ 3 := by
  rcases refuses_of_run failed with refused | ⟨cause, rfl⟩ | ⟨cause, rfl⟩
  · cases refused with
    | token rejected => cases rejected.symm.trans vouched
    | manifest vouchedToo mismatched =>
      obtain rfl := Except.ok.inj (vouched.symm.trans vouchedToo)
      exact absurd rfl mismatched.differs
    | _ => simp [RunError.exitCode]
  · simp [RunError.exitCode]
  · simp [RunError.exitCode]

namespace CommandLine

namespace Deployment

/-- A deployment is pinned to a secret, which is not empty. -/
structure Shares (deployment : Deployment) (secret : String) : Prop where
  algorithm : deployment.settings.verifier.algorithm = .hs256
  found : deployment.settings.verifier.secret deployment.secrets deployment.environment =
    some secret
  nonempty : secret ≠ ""

/-- A token is handed in: as an argument, or as a file that the argument names, with blank
characters around it. -/
inductive HandsIn (deployment : Deployment) (token : String) : String → Prop
  | inline {before after : String} (blankBefore : Text.isBlankText before = true)
      (blankAfter : Text.isBlankText after = true) :
      HandsIn deployment token (before ++ token ++ after)
  | file {path before after : String} (blankBefore : Text.isBlankText before = true)
      (blankAfter : Text.isBlankText after = true)
      (holds : deployment.system.readText path = .ok (before ++ token ++ after)) :
      HandsIn deployment token ("@" ++ path)

variable {ε : Type} {deployment : Deployment} {secret argument manifest : String}
  {claims : TaskClaims}

/-- Who shares the secret signs with it, and needs no private key. -/
theorem Shares.issuer (shares : deployment.Shares secret) (privateKey : Option String) :
    deployment.issuer privateKey = .ok (.hs256 (Text.Utf8.encode secret)) := by
  simp only [Deployment.issuer, shares.algorithm, shares.found]

/-- Who shares the secret verifies with it. -/
theorem Shares.verifier (shares : deployment.Shares secret) :
    deployment.verifier = .ok (.hs256 (Text.Utf8.encode secret)) := by
  rw [Deployment.verifier, VerifierSettings.load_hs256 shares.algorithm, shares.found, mapError_ok,
    Option.getD_some]

/-- Who shares the secret trusts what is signed with it. -/
theorem Shares.trusted (shares : deployment.Shares secret) (value : Value) :
    Issuer.Trusted value (.hs256 (Text.Utf8.encode secret))
      (.hs256 (Text.Utf8.encode secret)) := by
  refine .hs256 fun nothing => shares.nonempty ?_
  exact Text.Utf8.encode_inj.mp (nothing.trans Text.Utf8.encode_empty.symm)

/-- The token for claims of a secret. -/
def tokenOf (secret : String) (claims : TaskClaims) : String :=
  (Issuer.hs256 (Text.Utf8.encode secret)).tokenText claims.toValue

/-- A token begins with a letter, so it is taken neither for an option nor for the name of a
file. -/
theorem head?_tokenOf_ne (secret : String) (claims : TaskClaims) {character : Char}
    (other : 'e' ≠ character) : (tokenOf secret claims).toList.head? ≠ some character := by
  rw [tokenOf, Issuer.head?_tokenText]
  exact fun same => other (Option.some.inj same)

/-- The claims of a manifest file are those of its text. -/
theorem text_of_manifest (read : deployment.manifest manifest = .ok claims) :
    ∃ text, deployment.system.readText manifest = .ok text ∧ TaskClaims.read text = .ok claims := by
  have document := ok_of_mapError read
  unfold Deployment.document at document
  split at document
  · cases document
  · next text holds => exact ⟨text, holds, ok_of_mapError document⟩

/-- Signing a manifest prints the token for its claims. -/
theorem Shares.sign (shares : deployment.Shares secret)
    (read : deployment.manifest manifest = .ok claims) (privateKey : Option String) :
    (deployment.sign manifest privateKey).result = .ok (tokenOf secret claims) := by
  have issued : deployment.issued manifest privateKey = .ok (claims, tokenOf secret claims) := by
    rw [Deployment.issued, read, shares.issuer]
    simp only [bind, Except.bind, (shares.trusted claims.toValue).issue, mapError_ok, pure,
      Except.pure]
    rfl
  rw [Deployment.sign, issued]
  rfl

/-- What is handed in is the token: blank characters around it are trimmed, and those around the
text of a file as well. -/
theorem Shares.token (shares : deployment.Shares secret)
    (handed : deployment.HandsIn (tokenOf secret claims) argument) :
    deployment.token argument = .ok (tokenOf secret claims) := by
  have trimmed : Text.trim (tokenOf secret claims) = tokenOf secret claims :=
    Deployment.trim_of_issue (shares.trusted claims.toValue).issue
  cases handed with
  | inline blankBefore blankAfter =>
    have noFile := Text.head?_surrounded_ne '@' blankBefore blankAfter rfl
      (head?_tokenOf_ne secret claims (by decide))
    rw [Deployment.token]
    split
    · next path spelled => exact absurd (by rw [spelled]; rfl) noFile
    · rw [Text.trim_surrounded _ blankBefore blankAfter, trimmed]
  | @file path _ _ blankBefore blankAfter holds =>
    have spelled : ("@" ++ path).toList = '@' :: path.toList := String.toList_append
    simp only [Deployment.token, spelled, String.ofList_toList, holds]
    rw [Text.trim_surrounded _ blankBefore blankAfter, trimmed]

/-- What is handed in is no option, because it begins with a blank character, the token or an at
sign. -/
theorem HandsIn.head?_ne (handed : deployment.HandsIn (tokenOf secret claims) argument) :
    argument.toList.head? ≠ some '-' := by
  cases handed with
  | inline blankBefore blankAfter =>
    exact Text.head?_surrounded_ne '-' blankBefore blankAfter rfl
      (head?_tokenOf_ne secret claims (by decide))
  | @file path =>
    have spelled : ("@" ++ path).toList = '@' :: path.toList := String.toList_append
    rw [spelled, List.head?_cons]
    decide

/-- What is handed in where the secret is known is verified as the claims that were signed, on
whichever deployment that is. -/
theorem Shares.accepts (shares : deployment.Shares secret)
    (handed : deployment.HandsIn (tokenOf secret claims) argument) (portable : claims.Portable) :
    ∃ token verifier, deployment.Presents argument token verifier ∧
      verifier.verify token = .ok claims :=
  ⟨_, _, ⟨shares.token handed, shares.verifier⟩,
    portable.verify_tokenText (shares.trusted claims.toValue)⟩

/-- Only a token that is turned away or a manifest of other claims ends a run with code 3. Here the
token is accepted, and the claims are those of the manifest. -/
theorem run_exitCode_ne {token : String} {verifier : Verifier}
    (read : deployment.manifest manifest = .ok claims)
    (presents : deployment.Presents argument token verifier)
    (accepted : verifier.verify token = .ok claims) (registry : Option String)
    (surroundings : Surroundings ε) (state : Host × ε) {failure : CommandError}
    (failed : (deployment.run manifest argument registry surroundings state).1.result =
      .error failure) : failure.exitCode ≠ 3 := by
  rcases stops_of_run failed with stops | ⟨ready, error, readies, reported, rfl⟩
  · cases stops with
    | rejected readToo presentsToo rejected =>
      obtain rfl := Except.ok.inj (presents.token.symm.trans presentsToo.token)
      obtain rfl := Except.ok.inj (presents.verifier.symm.trans presentsToo.verifier)
      cases accepted.symm.trans rejected
    | _ => simp [CommandError.exitCode]
  · obtain ⟨readToo, presentsToo, -⟩ := readies.authenticates
    have sameManifest := Except.ok.inj (readToo.symm.trans read)
    have sameToken := Except.ok.inj (presentsToo.token.symm.trans presents.token)
    have sameVerifier := Except.ok.inj (presentsToo.verifier.symm.trans presents.verifier)
    rw [sameManifest, sameToken] at reported
    have vouched : (ready.runner deployment surroundings).gate.token.verify token = .ok claims := by
      rw [← sameVerifier] at accepted
      exact accepted
    exact Runner.exitCode_ne_of_vouched vouched reported

end Deployment

/-- A response is one line, with code zero. -/
structure Response.Prints (response : Response) (line : String) : Prop where
  exitCode : response.exitCode = 0
  stdout : response.stdout = line ++ "\n"

namespace Station

variable {ε δ : Type} {station : Station} {surroundings : Surroundings ε}
  {requested : Option String} {prepared : Prepared} {arguments : List String}
  {subcommand : Subcommand}

/-- What fails in front of a verb is nothing that code 3 stands for: it has code 2, or stops the
program at once. -/
theorem Fails.exitCode_ne {cause : CommandError}
    (fails : station.Fails surroundings requested cause) : cause.exitCode ≠ 3 := by
  by_cases abrupt : cause.Abrupt
  · rw [CommandError.exitCode_of_abrupt abrupt]
    decide
  · rw [fails.exitCode_of_not_abrupt abrupt]
    decide

/-- Arguments are answered with the line of their verb where all is prepared, and with code zero. -/
theorem Prepares.prints (prepares : station.Prepares surroundings requested prepared)
    (read : Invocation.read arguments = .ok ⟨requested, subcommand⟩) (seeds : ε) {line : String}
    (printed : (prepared.deployment.perform subcommand surroundings
      (prepared.host, seeds)).1.result = .ok line) :
    (respond arguments surroundings (station, seeds)).1.Prints line := by
  have result := (Invocation.result_of_prepares ⟨requested, subcommand⟩ prepares seeds).1
  rw [respond, read]
  exact ⟨Answer.exitCode_of_ok (result.trans printed), Answer.stdout_of_ok (result.trans printed)⟩

/-- A run of the claims that its token stands for does not end with code 3, whether or not it is
prepared. -/
theorem run_exitCode_ne {claims : TaskClaims} {secret argument manifest : String}
    {registry : Option String}
    (read : Invocation.read arguments = .ok ⟨requested, .run manifest argument registry⟩)
    (portable : claims.Portable)
    (redeems : ∀ prepared, station.Prepares surroundings requested prepared →
      prepared.deployment.Shares secret ∧
      prepared.deployment.HandsIn (Deployment.tokenOf secret claims) argument ∧
      prepared.deployment.manifest manifest = .ok claims) (seeds : ε) :
    (respond arguments surroundings (station, seeds)).1.exitCode ≠ 3 := by
  let invocation : Invocation := ⟨requested, .run manifest argument registry⟩
  have answered : (respond arguments surroundings (station, seeds)).1.exitCode =
      (invocation.perform surroundings (station, seeds)).1.exitCode := by
    rw [respond, read]
    rfl
  rw [answered]
  rcases station.prepares_or_fails surroundings requested with
    ⟨prepared, prepares⟩ | ⟨cause, fails⟩
  · obtain ⟨shares, handed, sameClaims⟩ := redeems prepared prepares
    obtain ⟨token, verifier, presents, accepted⟩ := shares.accepts handed portable
    have result := (invocation.result_of_prepares prepares seeds).1
    cases performed : (invocation.perform surroundings (station, seeds)).1.result with
    | ok line =>
      rw [Answer.exitCode_of_ok performed]
      decide
    | error failure =>
      rw [Answer.exitCode_of_error performed]
      exact Deployment.run_exitCode_ne sameClaims presents accepted registry surroundings _
        (result.symm.trans performed)
  · rw [Answer.exitCode_of_error (Invocation.perform_of_fails fails seeds).1]
    exact fails.exitCode_ne

/-- A verb that is not reached, although the journal is not lost, ends with code 2 and prints
nothing. -/
theorem unreached (read : Invocation.read arguments = .ok ⟨requested, subcommand⟩)
    (kept : ¬ station.LosesJournal surroundings requested)
    (unprepared : ∀ prepared, ¬ station.Prepares surroundings requested prepared) (seeds : ε) :
    let response := (respond arguments surroundings (station, seeds)).1
    response.exitCode = 2 ∧ response.stdout = "" := by
  intro response
  have answered : response =
      .answer (Invocation.perform ⟨requested, subcommand⟩ surroundings (station, seeds)).1 := by
    simp only [response, respond, read]
  rcases station.prepares_or_fails surroundings requested with
    ⟨prepared, prepares⟩ | ⟨cause, fails⟩
  · exact absurd prepares (unprepared prepared)
  · have failed :=
      (@Invocation.perform_of_fails _ ⟨requested, subcommand⟩ _ _ _ fails seeds).1
    rw [answered]
    refine ⟨?_, Answer.stdout_of_error failed⟩
    exact (Answer.exitCode_of_error failed).trans
      (fails.exitCode_of_not_abrupt fun abrupt => kept (fails.losesJournal abrupt))

/-- A token that is signed for a manifest is redeemed wherever the secret is the same. Signing
prints it where all is prepared, and so does verifying with the claims of the manifest, however the
token is handed in. A run with a manifest of these claims does not end with code 3, and neither does
one that is not prepared. Every command ends with code 2 and prints nothing where a directory for
logs is set and cannot be made, and where no home directory is known and the journal is not lost. -/
theorem signed_token_redeemed {secret path : String} {claims : TaskClaims}
    (prepares : station.Prepares surroundings requested prepared)
    (shares : prepared.deployment.Shares secret)
    (read : prepared.deployment.manifest path = .ok claims)
    (floatFree : (Value.object claims.parameters).FloatFree) :
    (∃ token,
      (∀ arguments privateKey seeds,
        Invocation.read arguments = .ok ⟨requested, .sign path privateKey⟩ →
        (respond arguments surroundings (station, seeds)).1.Prints token) ∧
      (∀ (other : Station) (around : Surroundings δ) request prepared' argument,
        other.Prepares around request prepared' → prepared'.deployment.Shares secret →
        prepared'.deployment.HandsIn token argument →
        Invocation.read ["verify", "--token", argument] = .ok ⟨none, .verify argument⟩ ∧
        ∀ arguments seeds, Invocation.read arguments = .ok ⟨request, .verify argument⟩ →
          (respond arguments around (other, seeds)).1.Prints claims.render) ∧
      (∀ (other : Station) (around : Surroundings δ) request manifest argument registry
          arguments seeds,
        Invocation.read arguments = .ok ⟨request, .run manifest argument registry⟩ →
        (∀ prepared', other.Prepares around request prepared' →
          prepared'.deployment.Shares secret ∧ prepared'.deployment.HandsIn token argument ∧
          prepared'.deployment.manifest manifest = .ok claims) →
        (respond arguments around (other, seeds)).1.exitCode ≠ 3)) ∧
    ∀ (other : Station) (around : Surroundings δ) request subcommand arguments seeds,
      Invocation.read arguments = .ok ⟨request, subcommand⟩ →
      (∃ settings directory cause, loadSettings other.host request = .ok settings ∧
          settings.paths.logs = some directory ∧
          other.host.system.makeDirectories directory = .error cause) ∨
        other.host.home = none ∧ ¬ other.LosesJournal around request →
      (respond arguments around (other, seeds)).1.exitCode = 2 ∧
        (respond arguments around (other, seeds)).1.stdout = "" := by
  have portable : claims.Portable := by
    obtain ⟨text, -, document⟩ := Deployment.text_of_manifest read
    exact TaskClaims.portable_of_read document floatFree
  refine ⟨⟨Deployment.tokenOf secret claims, ?sign, ?verify, ?run⟩, ?unreached⟩
  case sign =>
    intro arguments privateKey seeds asked
    exact prepares.prints asked seeds (shares.sign read privateKey)
  case verify =>
    intro other around request prepared' argument preparesToo sharesToo handed
    refine ⟨Invocation.read_verify handed.head?_ne, fun arguments seeds asked => ?_⟩
    obtain ⟨token, verifier, presents, accepted⟩ := sharesToo.accepts handed portable
    exact preparesToo.prints asked seeds (Deployment.verify_of_accepted presents accepted)
  case run =>
    intro other around request manifest argument registry arguments seeds asked redeems
    exact run_exitCode_ne asked portable redeems seeds
  case unreached =>
    intro other around request subcommand arguments seeds asked hindered
    rcases hindered with ⟨settings, directory, cause, loaded, set, unmade⟩ | ⟨homeless, kept⟩
    · exact unreached asked (kept_of_unmade loaded set unmade)
        (fun _ => not_prepares_of_unmade loaded set unmade) seeds
    · exact unreached asked kept (fun _ => not_prepares_of_homeless homeless) seeds

/-- A manifest that was found to have no parameters holds no floating point numbers. -/
theorem floatFree_of_length {deployment : Deployment} {path : String}
    (counted : ((deployment.manifest path).toOption.map
      fun claims => claims.parameters.length) = some 0) :
    ∃ claims, deployment.manifest path = .ok claims ∧
      (Value.object claims.parameters).FloatFree := by
  obtain ⟨claims, read, none⟩ := exists_ok_of_seen counted
  exact ⟨claims, read, (TaskClaims.portable_of_length none).floatFree⟩

/-- On the sample station a token is signed, and redeemed between a blank and a line break. Where
the directory for logs cannot be made it is not even looked at. -/
theorem signed_token_redeemed_sample :
    let answer (station : Station) (arguments : List String) :=
      (respond arguments .sample (station, ())).1
    ∃ (claims : TaskClaims) (token : String),
      (answer sample ["sign", "--manifest", "task.json"]).Prints token ∧
      (answer sample ["verify", "--token", " " ++ token ++ "\n"]).Prints claims.render ∧
      (answer sample
        ["run", "--manifest", "task.json", "--token", " " ++ token ++ "\n"]).exitCode ≠ 3 ∧
      (answer misplaced ["--config", "config.toml", "verify", "--token", "text"]).exitCode = 2 := by
  intro answer
  obtain ⟨claims, read, floatFree⟩ :=
    @floatFree_of_length samplePrepared.deployment "task.json" (by decide +kernel)
  have prepares := sample_prepares .sample
  have shares : samplePrepared.deployment.Shares "k" := ⟨rfl, rfl, by decide⟩
  obtain ⟨⟨token, signs, verifies, runs⟩, hindered⟩ :=
    @signed_token_redeemed Unit Unit _ _ _ _ _ _ _ prepares shares read floatFree
  have handed : samplePrepared.deployment.HandsIn token (" " ++ token ++ "\n") :=
    .inline (by decide) (by decide)
  obtain ⟨asked, prints⟩ := verifies _ _ _ _ _ prepares shares handed
  refine ⟨claims, token, signs _ _ () rfl, prints _ () asked, ?run, ?hindered⟩
  case run =>
    have plain : (" " ++ token ++ "\n").toList.head? ≠ some '-' := by
      rw [String.append_assoc, String.toList_append]
      exact nofun
    have runAsked := @Invocation.read_run "task.json" _ (by decide) (by decide) plain
    refine runs _ .sample none "task.json" (" " ++ token ++ "\n") none _ () runAsked ?_
    intro prepared preparesToo
    obtain rfl := preparesToo.unique prepares
    exact ⟨shares, handed, read⟩
  case hindered =>
    refine (hindered misplaced .sample (some "config.toml") (.verify "text") _ () rfl (.inl ?_)).1
    exact ⟨_, "task.json", _, misplaced_settings, rfl, misplaced_unmade⟩

/-- Valid settings, a secret and a manifest are not enough to sign: where the directory for logs
cannot be made, no token is printed. -/
theorem unsigned_without_logs :
    let answer := (respond ["--config", "config.toml", "sign", "--manifest", "task.json"]
      .sample (misplaced, ())).1
    (∃ deployment : Deployment, deployment.host = misplaced.host ∧
      loadSettings misplaced.host (some "config.toml") = .ok deployment.settings ∧
      loadSecrets misplaced.host = .ok deployment.secrets ∧ deployment.Shares "k" ∧
      ∃ claims, deployment.manifest "task.json" = .ok claims ∧
        (Value.object claims.parameters).FloatFree) ∧
    answer.exitCode = 2 ∧ answer.stdout = "" := by
  intro answer
  have manifest := @floatFree_of_length misplacedDeployment "task.json" (by decide +kernel)
  exact ⟨⟨misplacedDeployment, rfl, misplaced_settings, rfl, ⟨rfl, rfl, by decide⟩, manifest⟩,
    by decide +kernel, by decide +kernel⟩

end Station

end CommandLine

end Gatehouse
