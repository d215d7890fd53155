import Gatehouse.Proofs.Json.Form
import Gatehouse.Proofs.Json.Range

/-!
# The form of what is read

Whatever a reader gives back for a schema has the form of that schema. The invariant
says of every open container for which shape it was opened, that the container around
it takes this shape next, and that what it has collected has the form of its parts.
Every lexeme keeps it, so it holds where the document ends.
-/

namespace Gatehouse.Json

open Reader (nestingLimit)

/-- What a container was opened for, and the form of what it has collected. -/
def Frame.Sound (level : Nat) (schema : Schema) : Frame → Prop
  | .items entry done => level < nestingLimit ∧
    (schema = .list entry ∨ schema = .any ∧ entry = .any) ∧
    ∀ item ∈ done, entry.Form (level + 1) item
  | .table entry done _ => level < nestingLimit ∧
    (schema = .table entry ∨ schema = .any ∧ entry = .any) ∧
    SortedByName done ∧ ∀ member ∈ done, entry.Form (level + 1) member.2
  | .fields title all found _ => level < nestingLimit ∧ schema = .record title all ∧
    ∀ member ∈ found, Schema.FormOfField (level + 1) member.1 all member.2
  | .slots title all remaining found => level < nestingLimit ∧ schema = .record title all ∧
    (∀ field ∈ remaining, field ∈ all) ∧
    ∀ member ∈ found, Schema.FormOfField (level + 1) member.1 all member.2
  | .choice name => ∃ names, schema = .choice names ∧ name ∈ names
  | .skippedList => schema = .ignored
  | .skippedObject => schema = .ignored

/-- The shape of the value that a container takes next. -/
def Frame.Takes (schema : Schema) : Frame → Prop
  | .items entry _ => schema = entry
  | .table entry _ _ => schema = entry
  | .fields _ all _ (some name) => Schema.fieldShape? name all = some schema
  | .fields _ _ _ none => schema = .ignored
  | .slots _ _ ((_, _, shape) :: _) _ => schema = shape
  | .slots _ _ [] _ => False
  | .choice _ => schema = .unit
  | .skippedList => schema = .ignored
  | .skippedObject => schema = .ignored

namespace Reader

/-- The shape of the value that comes next on a stack: what the innermost container takes, or the
document. -/
def Takes (document schema : Schema) : List Frame → Prop
  | [] => schema = document
  | frame :: _ => frame.Takes schema

/-- Every open container is sound for a shape that the container around it takes. -/
def StackSound (document : Schema) : List Frame → Prop
  | [] => True
  | frame :: outer => StackSound document outer ∧
    ∃ schema, Takes document schema outer ∧ frame.Sound outer.length schema

/-- What holds of a reader between two lexemes. -/
def Sound (document : Schema) (state : ReaderState) : Prop :=
  match state.await with
  | .value schema | .colon schema =>
    StackSound document state.stack ∧ Takes document schema state.stack
  | .choiceName names => ∃ frame outer, state.stack = frame :: outer ∧
    StackSound document outer ∧ Takes document (.choice names) outer
  | .nothing value => document.Form 0 value
  | _ => StackSound document state.stack

/-! ## One lexeme

Each move of the reader keeps it sound. A container that is opened is opened for the shape that
comes next; one that is closed is delivered in the form of the shape that it was opened for. -/

variable {document schema : Schema} {stack : List Frame} {state next : ReaderState}

/-- A value that has the form that a stack takes is delivered to it: it becomes an item or a member
of the innermost container, or the document. -/
theorem sound_deliver {value : Value} (stackSound : StackSound document stack)
    (takes : Takes document schema stack) (form : schema.Form stack.length value) :
    Sound document (deliver value stack) := by
  cases stack with
  | nil =>
    obtain rfl := takes
    exact form
  | cons frame outer =>
    obtain ⟨outerSound, opened, outerTakes, sound⟩ := stackSound
    rw [List.length_cons] at form
    cases frame with
    | items entry done =>
      obtain rfl := takes
      obtain ⟨room, shape, parts⟩ := sound
      exact ⟨outerSound, opened, outerTakes, room, shape, List.forall_mem_cons.mpr ⟨form, parts⟩⟩
    | table entry done name =>
      obtain rfl := takes
      obtain ⟨room, shape, inOrder, parts⟩ := sound
      refine ⟨outerSound, opened, outerTakes, room, shape, inOrder.insert name value, ?_⟩
      -- An earlier member of the name is replaced, so all others were there before.
      intro member inside
      rcases mem_of_mem_insert inside with rfl | earlier
      · exact form
      · exact parts member earlier
    | fields title all found name =>
      obtain ⟨room, shape, parts⟩ := sound
      cases name with
      -- A member that is no field of the record is dropped.
      | none => exact ⟨outerSound, opened, outerTakes, room, shape, parts⟩
      | some name =>
        obtain ⟨mayBeAbsent, inside⟩ := Schema.mem_of_fieldShape? takes
        have fieldForm : Schema.FormOfField (outer.length + 1) name all value :=
          Schema.formOfField_of_mem inside (.inl form)
        exact ⟨outerSound, opened, outerTakes, room, shape,
          List.forall_mem_cons.mpr ⟨fieldForm, parts⟩⟩
    | slots title all remaining found =>
      obtain ⟨room, shape, known, parts⟩ := sound
      cases remaining with
      | nil => exact takes.elim
      | cons field remaining =>
        obtain ⟨name, mayBeAbsent, fieldSchema⟩ := field
        obtain rfl := takes
        obtain ⟨inside, behind⟩ := List.forall_mem_cons.mp known
        have fieldForm : Schema.FormOfField (outer.length + 1) name all value :=
          Schema.formOfField_of_mem inside (.inl form)
        exact ⟨outerSound, opened, outerTakes, room, shape, behind,
          List.forall_mem_cons.mpr ⟨fieldForm, parts⟩⟩
    | choice name => exact ⟨outerSound, opened, outerTakes, sound⟩
    | skippedList => exact ⟨outerSound, opened, outerTakes, sound⟩
    | skippedObject => exact ⟨outerSound, opened, outerTakes, sound⟩

/-- A container is opened only where there is room for it, and then it is the innermost one. -/
theorem of_enter {frame : Frame} {await : Await} (entered : enter frame await stack = .ok next) :
    stack.length < nestingLimit ∧ next = ⟨frame :: stack, await⟩ := by
  unfold enter at entered
  split at entered
  · next room =>
    obtain rfl := Except.ok.inj entered
    exact ⟨room, rfl⟩
  · cases entered

/-- A place that expects something else accepts nothing. -/
theorem refuse_ne_ok {α : Type} {expected : String} {lexeme : Lexeme} {result : α} :
    refuse expected lexeme ≠ .ok result := by
  unfold refuse
  cases found lexeme <;> simp [bind, Except.bind]

/-- Where a value of any shape comes next, its containers are within the limit. -/
theorem length_le_of_takes_any (stackSound : StackSound document stack)
    (takes : Takes document .any stack) : stack.length ≤ nestingLimit := by
  cases stack with
  | nil => exact Nat.zero_le _
  | cons frame outer =>
    obtain ⟨outerSound, opened, outerTakes, sound⟩ := stackSound
    cases frame with
    | items | table | fields | slots => exact sound.1
    | choice | skippedList | skippedObject => cases takes

/-- Where a value of any shape may come, a lexeme begins one or is one. -/
theorem sound_beginAny (stackSound : StackSound document stack)
    (takes : Takes document .any stack) {lexeme : Lexeme} (fits : lexeme.Fits)
    (begun : beginAny stack lexeme = .ok next) : Sound document next := by
  have room := length_le_of_takes_any stackSound takes
  -- A scalar adds no nesting to the containers around it.
  have scalar {value : Value} (canonical : value.Canonical) (flat : value.depth = 0) :
      Sound document (deliver value stack) :=
    sound_deliver stackSound takes ⟨canonical, by omega⟩
  cases lexeme with
  | openBracket =>
    obtain ⟨room, rfl⟩ := of_enter begun
    exact ⟨stackSound, .any, takes, room, .inr ⟨rfl, rfl⟩, List.forall_mem_nil _⟩
  | openBrace =>
    obtain ⟨room, rfl⟩ := of_enter begun
    exact ⟨stackSound, .any, takes, room, .inr ⟨rfl, rfl⟩, .nil, List.forall_mem_nil _⟩
  | null =>
    obtain rfl := Except.ok.inj begun
    exact scalar trivial rfl
  | bool value =>
    obtain rfl := Except.ok.inj begun
    exact scalar trivial rfl
  | number value =>
    cases value with
    | none => cases begun
    | some value =>
      obtain rfl := Except.ok.inj begun
      exact scalar fits rfl
  | text value =>
    cases value with
    | error fault => cases begun
    | ok value =>
      obtain rfl := Except.ok.inj begun
      exact scalar trivial rfl
  | closeBrace | closeBracket | colon | comma | brokenText | broken => cases begun

/-- What is passed over leaves nothing of its form behind. -/
theorem sound_beginIgnored (stackSound : StackSound document stack)
    (takes : Takes document .ignored stack) {lexeme : Lexeme}
    (begun : beginIgnored stack lexeme = .ok next) : Sound document next := by
  cases lexeme with
  | null | bool | number | text =>
    obtain rfl := Except.ok.inj begun
    exact sound_deliver stackSound takes rfl
  | openBracket | openBrace =>
    obtain rfl := Except.ok.inj begun
    exact ⟨stackSound, .ignored, takes, rfl⟩
  | closeBrace | closeBracket | colon | comma | brokenText | broken => cases begun

/-- A choice is a text, or begins an object around one. -/
theorem sound_beginChoice {names : List String} (stackSound : StackSound document stack)
    (takes : Takes document (.choice names) stack) {lexeme : Lexeme}
    (begun : beginChoice names stack lexeme = .ok next) : Sound document next := by
  unfold beginChoice at begun
  split at begun
  · next name =>
    split at begun
    · next known =>
      obtain rfl := Except.ok.inj begun
      exact sound_deliver stackSound takes ⟨name, known, rfl⟩
    · cases begun
  · cases begun
  · cases begun
  · obtain ⟨-, rfl⟩ := of_enter begun
    exact ⟨_, stack, rfl, stackSound, takes⟩
  · cases begun

/-- A value of the shape that comes next begins, or is there at once. One case for each shape. -/
theorem sound_begin (stackSound : StackSound document stack)
    (takes : Takes document schema stack) {lexeme : Lexeme} (fits : lexeme.Fits)
    (begun : begin schema stack lexeme = .ok next) : Sound document next := by
  unfold begin at begun
  split at begun
  · exact sound_beginAny stackSound takes fits begun
  · exact sound_beginIgnored stackSound takes begun
  · split at begun
    · obtain rfl := Except.ok.inj begun
      exact sound_deliver stackSound takes rfl
    · exact absurd begun refuse_ne_ok
  · split at begun
    · next content =>
      obtain rfl := Except.ok.inj begun
      exact sound_deliver stackSound takes ⟨content, rfl⟩
    · exact absurd begun refuse_ne_ok
  · split at begun
    · next content =>
      obtain rfl := Except.ok.inj begun
      exact sound_deliver stackSound takes ⟨content, rfl⟩
    · exact absurd begun refuse_ne_ok
  · split at begun
    · next content =>
      split at begun
      · next inside =>
        obtain rfl := Except.ok.inj begun
        exact sound_deliver stackSound takes ⟨content, rfl, inside⟩
      · cases begun
    · exact absurd begun refuse_ne_ok
  · exact sound_beginChoice stackSound takes begun
  · next entry =>
    split at begun
    · obtain ⟨room, rfl⟩ := of_enter begun
      exact ⟨stackSound, .list entry, takes, room, .inl rfl, List.forall_mem_nil _⟩
    · exact absurd begun refuse_ne_ok
  · next entry =>
    split at begun
    · obtain ⟨room, rfl⟩ := of_enter begun
      exact ⟨stackSound, .table entry, takes, room, .inl rfl, .nil, List.forall_mem_nil _⟩
    · exact absurd begun refuse_ne_ok
  · next title fields =>
    split at begun
    · obtain ⟨room, rfl⟩ := of_enter begun
      exact ⟨stackSound, .record title fields, takes, room, rfl, fun _ inside => inside,
        List.forall_mem_nil _⟩
    · obtain ⟨room, rfl⟩ := of_enter begun
      exact ⟨stackSound, .record title fields, takes, room, rfl, List.forall_mem_nil _⟩
    · exact absurd begun refuse_ne_ok

/-- What a bracket closes has the form that it was opened for. -/
theorem sound_closeBracket (stackSound : StackSound document stack)
    (closed : closeBracket stack = .ok next) : Sound document next := by
  unfold closeBracket at closed
  split at closed
  · next entry done outer =>
    obtain ⟨outerSound, opened, outerTakes, room, shape, parts⟩ := stackSound
    obtain rfl := Except.ok.inj closed
    exact sound_deliver outerSound outerTakes
      (Schema.form_list room shape fun item inside => parts item (List.mem_reverse.mp inside))
  · next title all remaining found outer =>
    obtain ⟨outerSound, opened, outerTakes, room, rfl, known, parts⟩ := stackSound
    -- The fields that were left out at the end are completed like those of an object.
    split at closed
    · next members completed =>
      obtain rfl := Except.ok.inj closed
      exact sound_deliver outerSound outerTakes
        ⟨members, rfl, form_of_complete parts (fun _ inside => inside) completed⟩
    · cases closed
  · obtain ⟨outerSound, opened, outerTakes, rfl⟩ := stackSound
    obtain rfl := Except.ok.inj closed
    exact sound_deliver outerSound outerTakes rfl
  · cases closed

/-- What a brace closes has the form that it was opened for, a record with all of its fields. -/
theorem sound_closeBrace (stackSound : StackSound document stack)
    (closed : closeBrace stack = .ok next) : Sound document next := by
  unfold closeBrace at closed
  split at closed
  · obtain ⟨outerSound, opened, outerTakes, room, shape, inOrder, parts⟩ := stackSound
    obtain rfl := Except.ok.inj closed
    exact sound_deliver outerSound outerTakes (Schema.form_object room shape inOrder parts)
  · next title all found name outer =>
    obtain ⟨outerSound, opened, outerTakes, room, rfl, parts⟩ := stackSound
    split at closed
    · next members completed =>
      obtain rfl := Except.ok.inj closed
      exact sound_deliver outerSound outerTakes
        ⟨members, rfl, form_of_complete parts (fun _ inside => inside) completed⟩
    · cases closed
  · next name outer =>
    obtain ⟨outerSound, opened, outerTakes, names, rfl, known⟩ := stackSound
    obtain rfl := Except.ok.inj closed
    exact sound_deliver outerSound outerTakes ⟨name, known, rfl⟩
  · obtain ⟨outerSound, opened, outerTakes, rfl⟩ := stackSound
    obtain rfl := Except.ok.inj closed
    exact sound_deliver outerSound outerTakes rfl
  · cases closed

/-- The first item of a container, or its end, keeps the reader sound. -/
theorem sound_beginItem (stackSound : StackSound document stack) {lexeme : Lexeme}
    (fits : lexeme.Fits) (begun : beginItem stack lexeme = .ok next) : Sound document next := by
  unfold beginItem at begun
  split at begun
  · exact sound_begin stackSound rfl fits begun
  · exact sound_begin stackSound rfl fits begun
  · exact sound_beginIgnored stackSound rfl begun
  · cases begun

/-- A comma leads to the next item or member of the innermost container. -/
theorem sound_separate (stackSound : StackSound document stack)
    (separated : separate stack = .ok next) : Sound document next := by
  unfold separate at separated
  split at separated
  · obtain rfl := Except.ok.inj separated
    exact ⟨stackSound, rfl⟩
  · obtain rfl := Except.ok.inj separated
    exact ⟨stackSound, rfl⟩
  · obtain rfl := Except.ok.inj separated
    exact ⟨stackSound, rfl⟩
  · obtain rfl := Except.ok.inj separated
    exact stackSound
  · obtain rfl := Except.ok.inj separated
    exact stackSound
  · obtain rfl := Except.ok.inj separated
    exact stackSound
  · cases separated

/-- A name leads to the value of its member, in the shape of the field of that name if it is one. -/
theorem sound_nameMember {name : String} (stackSound : StackSound document stack)
    (named : nameMember name stack = .ok next) : Sound document next := by
  unfold nameMember at named
  split at named
  · obtain rfl := Except.ok.inj named
    exact ⟨stackSound, rfl⟩
  · split at named
    · cases named
    · split at named
      · next shaped =>
        obtain rfl := Except.ok.inj named
        exact ⟨stackSound, shaped⟩
      · obtain rfl := Except.ok.inj named
        exact ⟨stackSound, rfl⟩
  · cases named

/-- The first name of an object, or its end, keeps the reader sound. -/
theorem sound_beginMember (stackSound : StackSound document stack) {lexeme : Lexeme}
    (begun : beginMember stack lexeme = .ok next) : Sound document next := by
  unfold beginMember at begun
  split at begun
  · split at begun
    · obtain rfl := Except.ok.inj begun
      exact ⟨stackSound, rfl⟩
    · cases begun
    · cases begun
  · split at begun
    · exact sound_nameMember stackSound begun
    · cases begun
    · cases begun
    · cases begun

/-- The name of a choice is one of those that it may have. -/
theorem sound_nameChoice {names : List String} {frame : Frame} {outer : List Frame}
    (outerSound : StackSound document outer) (takes : Takes document (.choice names) outer)
    {lexeme : Lexeme} (named : nameChoice names (frame :: outer) lexeme = .ok next) :
    Sound document next := by
  unfold nameChoice at named
  split at named
  · next name _ behind same =>
    obtain ⟨-, rfl⟩ := List.cons.inj same
    split at named
    · next known =>
      obtain rfl := Except.ok.inj named
      exact ⟨⟨outerSound, .choice names, takes, names, rfl, known⟩, rfl⟩
    · cases named
  · cases named
  · cases named
  · cases named

/-- Every lexeme keeps a reader sound, whatever it is waiting for. This is the step of the induction
over a text. -/
theorem sound_step (sound : Sound document state) {lexeme : Lexeme} (fits : lexeme.Fits)
    (stepped : step state lexeme = .ok next) : Sound document next := by
  obtain ⟨stack, await⟩ := state
  cases await with
  | value schema => exact sound_begin sound.1 sound.2 fits stepped
  | itemOrEnd =>
    cases lexeme with
    | closeBracket => exact sound_closeBracket sound stepped
    | _ => exact sound_beginItem sound fits stepped
  | nameOrEnd =>
    by_cases ends : lexeme = .closeBrace
    · subst ends
      exact sound_closeBrace sound stepped
    · have begins : step ⟨stack, .nameOrEnd⟩ lexeme = beginMember stack lexeme := by
        cases lexeme with
        | closeBrace => exact absurd rfl ends
        | _ => rfl
      exact sound_beginMember sound (begins.symm.trans stepped)
  | name => exact sound_beginMember sound stepped
  | choiceName names =>
    -- The container has no name yet, so only what is around it is sound.
    obtain ⟨frame, outer, rfl, outerSound, takes⟩ := sound
    exact sound_nameChoice outerSound takes stepped
  | colon schema =>
    cases lexeme with
    | colon =>
      obtain rfl := Except.ok.inj stepped
      exact sound
    | _ => cases stepped
  | separator =>
    cases lexeme with
    | comma => exact sound_separate sound stepped
    | closeBracket => exact sound_closeBracket sound stepped
    | closeBrace => exact sound_closeBrace sound stepped
    | _ => cases stepped
  | closingBrace =>
    cases lexeme with
    | closeBrace => exact sound_closeBrace sound stepped
    | _ => cases stepped
  | nothing value => cases stepped

/-- A reader stays sound over all the lexemes of a text. By induction on them, since they all
fit. -/
theorem sound_run (sound : Sound document state) {sequence : List Lexeme}
    (fit : ∀ lexeme ∈ sequence, lexeme.Fits) (ran : run state sequence = .ok next) :
    Sound document next := by
  induction sequence generalizing state with
  | nil =>
    obtain rfl := Except.ok.inj ran
    exact sound
  | cons lexeme rest inductionHypothesis =>
    obtain ⟨fits, others⟩ := List.forall_mem_cons.mp fit
    simp only [run] at ran
    split at ran
    · next stepped => exact inductionHypothesis (sound_step sound fits stepped) others ran
    · cases ran

end Reader

/-- What is read for a schema has the form of that schema: at the end a sound reader holds a
document of that form. -/
theorem Schema.form_of_read {schema : Schema} {text : String} {value : Value}
    (read : schema.read text = .ok value) : schema.Form 0 value := by
  have fit : ∀ lexeme ∈ lexemes text.toList, lexeme.Fits :=
    Lexeme.fits_of_mem_sequenceAfter (List.forall_mem_nil _) _
  have start : Reader.Sound schema ⟨[], .value schema⟩ := ⟨trivial, rfl⟩
  rw [Schema.read] at read
  cases ran : Reader.run ⟨[], .value schema⟩ (lexemes text.toList) with
  | error fault =>
    rw [ran] at read
    cases read
  | ok last =>
    have sound : Reader.Sound schema last := Reader.sound_run start fit ran
    rw [ran] at read
    obtain ⟨stack, await⟩ := last
    cases await with
    | nothing found =>
      obtain rfl := Except.ok.inj read
      exact sound
    | _ => cases read

end Gatehouse.Json
