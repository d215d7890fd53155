import Gatehouse.CommandLine.Arguments

/-!
# How arguments are read

A text that does not begin with a hyphen is no option, whatever else it is, so behind an
option that takes a value it is that value. Behind a verb the arguments are read one by
one, and a token is read as it was given.
-/

namespace Gatehouse.CommandLine

/-- An argument that begins with no hyphen is a plain text. -/
theorem Argument.ofText_of_plain {text : String} (plain : text.toList.head? ≠ some '-') :
    ofText text = .plain text := by
  unfold ofText
  split
  · next divider => exact absurd (by rw [divider]; rfl) plain
  · next long => exact absurd (by rw [long]; rfl) plain
  · next short => exact absurd (by rw [short]; rfl) plain
  · rfl

/-- Behind a verb, arguments are read one by one. Only the divider would change how those behind it
are taken. -/
theorem Scope.read_inner {verb : Verb} {text : String} {argument : Argument}
    {reading next : Reading}
    (form : Argument.ofText text = argument) (noDivider : argument ≠ .divider)
    (stepped : (inner verb).step reading argument = .ok next) (rest : List String) :
    (inner verb).read reading (text :: rest) = (inner verb).read next rest := by
  have noVerb : ¬ (¬ reading.awaits ∧ text ∈ (inner verb).verbs) := fun both => nomatch both.2
  rw [read, if_neg noVerb, form, stepped]
  · rfl
  · intro isDivider
    exact absurd (form.symm.trans isDivider) noDivider

namespace Invocation

/-- The reading of a verb with its options behind it, and nothing in front of it. -/
theorem read_of_readVerb {name : String} {verb : Verb} {rest : List String}
    {subcommand : Subcommand} {reading : Reading} (isVerb : name ∈ Scope.outer.verbs)
    (named : Verb.ofText? name = some verb)
    (read : readVerb verb rest = .ok (subcommand, reading)) :
    Invocation.read (name :: rest) = .ok ⟨reading.value? .config, subcommand⟩ := by
  have front : Scope.outer.read .start (name :: rest) = .ok (.start, some (name, rest)) :=
    if_pos ⟨nofun, isVerb⟩
  rw [Invocation.read, front]
  simp only [bind, Except.bind, named, read]
  exact congrArg (fun path => Except.ok (Invocation.mk path subcommand)) Option.or_none

/-- What follows the option for a token is taken for the token, unless it begins with a hyphen. -/
theorem read_verify {argument : String} (plain : argument.toList.head? ≠ some '-') :
    Invocation.read ["verify", "--token", argument] = .ok ⟨none, .verify argument⟩ := by
  have option : Argument.ofText "--token" = .long "token" none := by decide
  have options : (Scope.inner .verify).read .start ["--token", argument] =
      .ok (⟨[], some (.token, some argument)⟩, none) := by
    rw [Scope.read_inner option nofun rfl,
      Scope.read_inner (Argument.ofText_of_plain plain) nofun rfl]
    rfl
  have verb : readVerb .verify ["--token", argument] =
      .ok (.verify argument, ⟨[(.token, argument)], none⟩) := by
    rw [readVerb, options]
    rfl
  exact read_of_readVerb (by decide) rfl verb

/-- So it is behind the path of a manifest. -/
theorem read_run {manifest argument : String} (nonempty : manifest ≠ "")
    (path : manifest.toList.head? ≠ some '-') (plain : argument.toList.head? ≠ some '-') :
    Invocation.read ["run", "--manifest", manifest, "--token", argument] =
      .ok ⟨none, .run manifest argument none⟩ := by
  have first : Argument.ofText "--manifest" = .long "manifest" none := by decide
  have second : Argument.ofText "--token" = .long "token" none := by decide
  have takes : OptionName.manifest.takes manifest = true := by
    simp [OptionName.takes, nonempty]
  have settled : Reading.settle ⟨[], some (.manifest, some manifest)⟩ =
      .ok ⟨[(.manifest, manifest)], none⟩ := if_pos ⟨takes, rfl⟩
  have stepped : (Scope.inner .run).step ⟨[], some (.manifest, some manifest)⟩
      (.long "token" none) = .ok ⟨[(.manifest, manifest)], some (.token, none)⟩ := by
    simp only [Scope.step, settled, bind, Except.bind]
    rfl
  have options : (Scope.inner .run).read .start ["--manifest", manifest, "--token", argument] =
      .ok (⟨[(.manifest, manifest)], some (.token, some argument)⟩, none) := by
    rw [Scope.read_inner first nofun rfl,
      Scope.read_inner (Argument.ofText_of_plain path) nofun rfl]
    exact (Scope.read_inner second nofun stepped _).trans
      (Scope.read_inner (Argument.ofText_of_plain plain) nofun rfl _)
  have verb : readVerb .run ["--manifest", manifest, "--token", argument] =
      .ok (.run manifest argument none,
        ⟨[(.manifest, manifest), (.token, argument)], none⟩) := by
    rw [readVerb, options]
    rfl
  exact read_of_readVerb (by decide) rfl verb

end Invocation

end Gatehouse.CommandLine
