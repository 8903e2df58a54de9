import Jukebox.Proofs.LastAssigned
import Jukebox.Proofs.Observed

/-
# Collecting assignments

The assignments of a line are read token by token, and what a word means depends on the mark in it,
on the settings there are and, for a switch that is turned over, on the assignments before it. Here
they are put in a form in which only the last of these is left open. Each is a change to a setting, and a
reading says where a switch that is turned over is looked up: among the assignments so far, or in the
settings that these leave.

Whether an assignment is in order is not a matter of values, so all readings collect assignments from
the same lists, and complain alike about the others.
-/

namespace Jukebox.Command

open Text

variable {σ : Type}

/-- One assignment of a line: a word, or a word that leaves its value to the token after it. -/
inductive Assignment where
  | bare (word : String)
  | valued (word : String) (value : Token)
deriving DecidableEq, Repr

/-- What becomes of a setting: a switch is turned over, on or off, or the setting gets a value. -/
inductive Change where
  | turnOver
  | turn (on : Bool)
  | give (value : Token)
deriving DecidableEq, Repr

namespace Assignment

/-- The tokens that the assignment consists of. -/
def tokens : Assignment → List Token
  | bare word => [.word word]
  | valued word value => [.word word, value]

/-- The setting that the assignment is about, and what becomes of it. -/
def meaning (settings : Settings) : Assignment → String × Change
  | bare word =>
    match splitOnce word "=" with
    | some (name, value) => (name, .give (.word value))
    | none =>
      match beforeEnd? word "!" with
      | some name => (name, .turnOver)
      | none => ((switchWord settings word).1, .turn (switchWord settings word).2)
  | valued word value => ((splitOnce word "=").elim word (·.1), .give value)

/-- A word leaves its value to the token after it. -/
def Awaits (word : String) : Prop := ∃ name, splitOnce word "=" = some (name, "")

end Assignment

/-- The value that a change leads to, where `switch` is the value of a switch to be turned over. -/
def Change.value (switch : Except SettingError Bool) (settings : Settings) (name : String) :
    Change → Except CommandError SettingValue
  | turnOver => (switch.mapError .setting).map fun on => .switch !on
  | turn on => do
    match ← (settings.kind name).mapError .setting with
    | .switch => return .switch on
    | .text => throw (.setting (.wrongKind name .text))
  | give value => do
    let kind ← (settings.kind name).mapError .setting
    match value with
    | .stray text => throw (.unexpected (.stray text) "a value")
    | value => settingValue name kind value.text

/-- What is assigned, where `switch` tells the values of switches that are turned over. -/
def Assignment.entry (switch : String → Except SettingError Bool) (settings : Settings)
    (assignment : Assignment) : Except CommandError (String × SettingValue) :=
  let (name, change) := assignment.meaning settings
  (change.value (switch name) settings name).map fun value => (name, value)

/-- Assignments that a line can consist of. Only at the end of the line a value may be missing. -/
structure Arranged (list : List Assignment) : Prop where
  bare : ∀ word, .bare word ∈ list.dropLast → ¬Assignment.Awaits word
  valued : ∀ word value, .valued word value ∈ list →
    Assignment.Awaits word ∧ value ≠ .endOfLine

/-- Where a switch that is turned over is looked up when these assignments came before. -/
abbrev Reading := List (String × SettingValue) → String → Except SettingError Bool

/-- On one line it is looked up among the assignments so far, and then in the settings. -/
def onLine (settings : Settings) : Reading := fun assigned name =>
  ({ list := assigned } : Assignments).switchValue settings name

/-- On lines of their own it is looked up in the settings that the assignments so far leave. -/
def inSettings (settings : Settings) : Reading := fun assigned name =>
  (settle assigned settings).switchValue name

/-- What is assigned by assignments that come after others, those included. -/
def collect (reading : Reading) (settings : Settings) :
    List Assignment → List (String × SettingValue) →
      Except CommandError (List (String × SettingValue))
  | [], assigned => .ok assigned
  | assignment :: rest, assigned => do
    let entry ← assignment.entry (reading assigned) settings
    collect reading settings rest (assigned ++ [entry])

section Reading

variable (session : Session σ) {assigned : List (String × SettingValue)}

/-- A word that has its value, or needs none, is read as an assignment. -/
theorem readWord_eq {word : String} (h : ¬Assignment.Awaits word) (settings : Settings) :
    ({ list := assigned } : Assignments).readWord settings word =
      ((Assignment.bare word).entry (onLine settings assigned) settings).map
        fun entry => { list := assigned ++ [entry] } := by
  cases hsplit : splitOnce word "=" with
  | some parts =>
    obtain ⟨name, value⟩ := parts
    have hvalue : value ≠ "" := fun hempty => h ⟨name, hempty ▸ hsplit⟩
    simp only [Assignments.readWord, Assignment.entry, Assignment.meaning, hsplit, Change.value,
      if_neg hvalue]
    cases settings.kind name with
    | error error => rfl
    | ok kind =>
      change (settingValue name kind value >>= _) =
        Except.map _ (Except.map _ (settingValue name kind value))
      cases settingValue name kind value <;> rfl
  | none =>
    cases hover : beforeEnd? word "!" with
    | some name =>
      simp only [Assignments.readWord, Assignment.entry, Assignment.meaning, hsplit, hover,
        Change.value]
      change (Except.mapError _ (onLine settings assigned name) >>= _) = _
      cases onLine settings assigned name <;> rfl
    | none =>
      simp only [Assignments.readWord, Assignment.entry, Assignment.meaning, hsplit, hover,
        Change.value]
      cases settings.kind (switchWord settings word).1 with
      | error error => rfl
      | ok kind => cases kind <;> rfl

/-- A word that leaves its value to the next token has the setting wait for it. -/
theorem readWord_of_awaits {word name : String} (h : splitOnce word "=" = some (name, ""))
    (settings : Settings) :
    ({ list := assigned } : Assignments).readWord settings word =
      ((settings.kind name).mapError .setting).map fun kind =>
        { list := assigned, waiting := some (name, kind) } := by
  simp only [Assignments.readWord, h, if_true]
  cases settings.kind name <;> rfl

/-- What the tokens that are left on a line, and then its end, make of the assignments so far. -/
def readOn (session : Session σ) :
    List Token → Assignments → Except CommandError (List (String × SettingValue))
  | [], assigned => (assignments (σ := σ)).result assigned
  | token :: tokens, assigned => assignments.read session assigned token >>= readOn session tokens

theorem readLine_eq_readOn (words : List Token) :
    assignments.readLine session words = readOn session words {} := by
  suffices h : ∀ assigned : (assignments (σ := σ)).State,
      words.foldlM (assignments.read session) assigned >>= assignments.result =
        readOn session words assigned from h assignments.start
  induction words with
  | nil => exact fun assigned => pure_bind assigned assignments.result
  | cons word words ih =>
    intro assigned
    rw [List.foldlM_cons, bind_assoc]
    exact congrArg (assignments.read session assigned word >>= ·) (funext ih)

/-- At the end of the line there must be assignments. -/
theorem readOn_nil (h : assigned ≠ []) : readOn session [] { list := assigned } = .ok assigned := by
  cases assigned with
  | nil => exact absurd rfl h
  | cons entry assigned => rfl

/-- A value that is missing at the end of the line is taken to be empty. -/
theorem readOn_nil_of_waiting (name : String) (kind : SettingKind) :
    readOn session [] { list := assigned, waiting := some (name, kind) } =
      (settingValue name kind "").map fun value => assigned ++ [(name, value)] := by
  change (Except.map _ (settingValue name kind "") >>= _) = _
  cases settingValue name kind "" with
  | error error => rfl
  | ok value => exact readOn_nil session (List.concat_ne_nil (name, value) assigned)

/-- An assignment that has its value, or needs none, is added to those before it. -/
theorem readOn_append {assignment : Assignment}
    (hbare : ∀ word, assignment = .bare word → ¬Assignment.Awaits word)
    (hvalued : ∀ word value, assignment = .valued word value →
      Assignment.Awaits word ∧ value ≠ .endOfLine) (rest : List Token) :
    readOn session (assignment.tokens ++ rest) { list := assigned } =
      assignment.entry (onLine session.settings assigned) session.settings >>= fun entry =>
        readOn session rest { list := assigned ++ [entry] } := by
  cases assignment with
  | bare word =>
    change (({ list := assigned } : Assignments).readWord session.settings word >>= _) = _
    rw [readWord_eq (hbare word rfl)]
    cases (Assignment.bare word).entry (onLine session.settings assigned) session.settings <;> rfl
  | valued word value =>
    obtain ⟨⟨name, hsplit⟩, hvalue⟩ := hvalued word value rfl
    change (({ list := assigned } : Assignments).readWord session.settings word >>= _) = _
    rw [readWord_of_awaits hsplit]
    simp only [Assignment.entry, Assignment.meaning, Change.value, hsplit, Option.elim_some]
    cases session.settings.kind name with
    | error error => rfl
    | ok kind =>
      cases value with
      | endOfLine => exact absurd rfl hvalue
      | stray text => rfl
      | word text | quoted text =>
        change (Except.map _ (settingValue name kind text) >>= _) =
          (Except.map _ (settingValue name kind text) >>= _)
        cases settingValue name kind text <;> rfl

/-- The last word of a line is an assignment even if it leaves its value to a next one. -/
theorem readOn_of_awaits {word : String} (h : Assignment.Awaits word) :
    readOn session [.word word] { list := assigned } =
      ((Assignment.bare word).entry (onLine session.settings assigned) session.settings).map
        fun entry => assigned ++ [entry] := by
  obtain ⟨name, hsplit⟩ := h
  change (({ list := assigned } : Assignments).readWord session.settings word >>= _) = _
  rw [readWord_of_awaits hsplit]
  simp only [Assignment.entry, Assignment.meaning, Change.value, hsplit]
  cases session.settings.kind name with
  | error error => rfl
  | ok kind =>
    refine (readOn_nil_of_waiting session name kind).trans ?_
    change _ = Except.map _ (Except.map _ (settingValue name kind ""))
    cases settingValue name kind "" <;> rfl

theorem Arranged.tail {assignment : Assignment} {rest : List Assignment}
    (h : Arranged (assignment :: rest)) : Arranged rest where
  bare word hword := by
    refine h.bare word ?_
    rw [List.dropLast_cons_of_ne_nil (List.ne_nil_of_mem (List.dropLast_subset rest hword))]
    exact List.mem_cons_of_mem _ hword
  valued word value hmem := h.valued word value (List.mem_cons_of_mem _ hmem)

theorem Arranged.eq_nil_of_awaits {word : String} {rest : List Assignment}
    (h : Arranged (.bare word :: rest)) (hawaits : Assignment.Awaits word) : rest = [] := by
  cases rest with
  | nil => rfl
  | cons next rest => exact absurd hawaits (h.bare word List.mem_cons_self)

/-- A line with assignments is read as these, one after another. -/
theorem readOn_flatMap {list : List Assignment} (harranged : Arranged list)
    (hsome : assigned ≠ [] ∨ list ≠ []) :
    readOn session (list.flatMap Assignment.tokens) { list := assigned } =
      collect (onLine session.settings) session.settings list assigned := by
  induction list generalizing assigned with
  | nil => exact readOn_nil session (hsome.resolve_right (not_not_intro rfl))
  | cons assignment rest ih =>
    by_cases hlast : ∃ word, assignment = .bare word ∧ Assignment.Awaits word
    · obtain ⟨word, rfl, hawaits⟩ := hlast
      obtain rfl := harranged.eq_nil_of_awaits hawaits
      refine (readOn_of_awaits session hawaits).trans ?_
      rw [collect]
      cases (Assignment.bare word).entry (onLine session.settings assigned) session.settings <;> rfl
    · rw [List.flatMap_cons, collect, readOn_append session
        (fun word hword hawaits => hlast ⟨word, hword, hawaits⟩)
        (fun word value hvalued => harranged.valued word value (hvalued ▸ List.mem_cons_self))]
      congr 1
      funext entry
      exact ih harranged.tail (.inl (List.concat_ne_nil entry assigned))

/-- A line that consists of assignments is read as these. -/
theorem readLine_flatMap {list : List Assignment} (harranged : Arranged list) (hlist : list ≠ []) :
    assignments.readLine session (list.flatMap Assignment.tokens) =
      collect (onLine session.settings) session.settings list [] := by
  rw [readLine_eq_readOn]
  exact readOn_flatMap session harranged (.inr hlist)

end Reading

section Entries

variable {settings : Settings} {switch other : String → Except SettingError Bool}

/-- An assignment is read alike as long as the settings are of the same kinds. -/
theorem Assignment.entry_of_kind_eq {next : Settings}
    (h : ∀ name, next.kind name = settings.kind name) (assignment : Assignment) :
    assignment.entry switch next = assignment.entry switch settings := by
  have hregistered := Settings.isRegistered_eq_of_kind_eq h
  have hmeaning : assignment.meaning next = assignment.meaning settings := by
    cases assignment with
    | bare word => simp only [Assignment.meaning, switchWord, hregistered]
    | valued word value => rfl
  unfold Assignment.entry
  rw [hmeaning]
  cases (assignment.meaning settings).2 <;> simp only [Change.value, h]

/-- Of the switches only that one is looked up which is turned over. -/
theorem Assignment.entry_congr {assignment : Assignment}
    (h : ∀ name, assignment.meaning settings = (name, .turnOver) → switch name = other name) :
    assignment.entry switch settings = assignment.entry other settings := by
  unfold Assignment.entry
  rcases hmeaning : assignment.meaning settings with ⟨name, change⟩
  cases change with
  | turnOver => simp only [Change.value, h name hmeaning]
  | turn _ | give _ => rfl

/-- Whether an assignment is in order, and the complaint if it is not, is not a matter of values. -/
theorem Assignment.failure?_entry (h : ∀ name, failure? (switch name) = failure? (other name))
    (assignment : Assignment) :
    failure? (assignment.entry switch settings) = failure? (assignment.entry other settings) := by
  unfold Assignment.entry
  rcases assignment.meaning settings with ⟨name, change⟩
  cases change with
  | turnOver =>
    have hname := h name
    simp only [Change.value]
    generalize switch name = first, other name = second at hname ⊢
    cases first <;> cases second <;> cases hname <;> rfl
  | turn _ | give _ => rfl

theorem Assignment.fst_of_entry {assignment : Assignment} {entry : String × SettingValue}
    (h : assignment.entry switch settings = .ok entry) :
    entry.1 = (assignment.meaning settings).1 := by
  obtain ⟨value, -, rfl⟩ := map_eq_ok_iff.1 h
  rfl

/-- A change leads to a value of the kind of its setting. -/
theorem Change.kind_of_value {change : Change} {found : Except SettingError Bool} {name : String}
    {value : SettingValue} (hfound : ∀ on, found = .ok on → settings.kind name = .ok .switch)
    (h : change.value found settings name = .ok value) : settings.kind name = .ok value.kind := by
  cases change with
  | turnOver =>
    obtain ⟨on, hon, rfl⟩ := map_eq_ok_iff.1 h
    exact hfound on (mapError_eq_ok_iff.1 hon)
  | turn on =>
    obtain ⟨kind, hkind, h⟩ := bind_eq_ok_iff.1 h
    cases kind with
    | switch =>
      cases h
      exact mapError_eq_ok_iff.1 hkind
    | text => cases h
  | give token =>
    obtain ⟨kind, hkind, h⟩ := bind_eq_ok_iff.1 h
    rw [mapError_eq_ok_iff.1 hkind]
    cases token with
    | stray text => cases h
    | word _ | quoted _ | endOfLine => rw [kind_of_settingValue h]

theorem Assignment.kind_of_entry {assignment : Assignment} {entry : String × SettingValue}
    (hswitch : ∀ name on, switch name = .ok on → settings.kind name = .ok .switch)
    (h : assignment.entry switch settings = .ok entry) :
    settings.kind entry.1 = .ok entry.2.kind := by
  obtain ⟨value, hvalue, rfl⟩ := map_eq_ok_iff.1 h
  exact Change.kind_of_value (hswitch _) hvalue

end Entries

section Readings

variable {settings : Settings} {assigned : List (String × SettingValue)} {reading other : Reading}

/-- A switch is found just if there is one of that name, and else there is the right complaint. -/
def Reading.Sound (reading : Reading) (settings : Settings) : Prop :=
  ∀ assigned, AllFit settings assigned → ∀ name,
    failure? (reading assigned name) = failure? (settings.switchValue name)

theorem switchValue_eq (settings : Settings) (name : String) :
    settings.switchValue name = match settings.find? name with
      | some (.switch on) => .ok on
      | some (.text _) => .error (.wrongKind name .text)
      | none => .error (.unregistered name) := by
  unfold Settings.switchValue Settings.get
  rcases settings.find? name with _ | _ | _ <;> rfl

theorem failure?_switchValue (settings : Settings) (name : String) :
    failure? (settings.switchValue name) = match settings.kind name with
      | .ok .switch => none
      | .ok .text => some (.wrongKind name .text)
      | .error error => some error := by
  rw [Settings.kind_eq, switchValue_eq]
  rcases settings.find? name with _ | _ | _ <;> rfl

theorem Reading.Sound.kind_eq (h : reading.Sound settings) (hfit : AllFit settings assigned)
    {name : String} {on : Bool} (hon : reading assigned name = .ok on) :
    settings.kind name = .ok .switch := by
  have hfound := h assigned hfit name
  rw [hon] at hfound
  cases hswitch : settings.switchValue name with
  | ok on => exact Settings.kind_of_switchValue hswitch
  | error error =>
    rw [hswitch] at hfound
    cases hfound

theorem sound_onLine (settings : Settings) : (onLine settings).Sound settings := by
  intro assigned hfit name
  have hfits : ({ list := assigned } : Assignments).Fits settings := ⟨hfit, nofun⟩
  cases hon : onLine settings assigned name with
  | ok on => rw [failure?_switchValue, hfits.kind_of_switchValue hon]; rfl
  | error error =>
    rw [← hon]
    unfold onLine Assignments.switchValue at hon ⊢
    split at hon
    · cases hon
    · rfl

theorem sound_inSettings (settings : Settings) : (inSettings settings).Sound settings := by
  intro assigned hfit name
  rw [inSettings, failure?_switchValue, failure?_switchValue, kind_settle hfit]

/-- One assignment more fits as those before it do. -/
theorem Reading.Sound.allFit_concat (h : reading.Sound settings) (hfit : AllFit settings assigned)
    {assignment : Assignment} {entry : String × SettingValue}
    (hentry : assignment.entry (reading assigned) settings = .ok entry) :
    AllFit settings (assigned ++ [entry]) := by
  intro old hold
  rcases List.mem_append.1 hold with hold | hnew
  · exact hfit old hold
  · rw [List.mem_singleton.1 hnew]
    exact Assignment.kind_of_entry (fun _ _ => h.kind_eq hfit) hentry

theorem allFit_collect (hsound : reading.Sound settings) {list : List Assignment}
    {all : List (String × SettingValue)} (hfit : AllFit settings assigned)
    (h : collect reading settings list assigned = .ok all) : AllFit settings all := by
  induction list generalizing assigned with
  | nil =>
    cases h
    exact hfit
  | cons assignment rest ih =>
    obtain ⟨entry, hentry, h⟩ := bind_eq_ok_iff.1 h
    exact ih (hsound.allFit_concat hfit hentry) h

/-- Assignments are in order or not wherever switches are looked up. -/
theorem failure?_collect (hsound : reading.Sound settings) (hother : other.Sound settings)
    (list : List Assignment) {assigned' : List (String × SettingValue)}
    (hfit : AllFit settings assigned) (hfit' : AllFit settings assigned') :
    failure? (collect reading settings list assigned) =
      failure? (collect other settings list assigned') := by
  induction list generalizing assigned assigned' with
  | nil => rfl
  | cons assignment rest ih =>
    have hsame : failure? (assignment.entry (reading assigned) settings) =
        failure? (assignment.entry (other assigned') settings) :=
      assignment.failure?_entry fun name =>
        (hsound assigned hfit name).trans (hother assigned' hfit' name).symm
    unfold collect
    cases hentry : assignment.entry (reading assigned) settings with
    | error error =>
      have herror : failure? (assignment.entry (other assigned') settings) = some error := by
        rw [← hsame, hentry]
        rfl
      rw [failure?_eq_some_iff.1 herror]
      rfl
    | ok entry =>
      cases hentry' : assignment.entry (other assigned') settings with
      | error error =>
        rw [hentry, hentry'] at hsame
        cases hsame
      | ok entry' =>
        exact ih (hsound.allFit_concat hfit hentry) (hother.allFit_concat hfit' hentry')

end Readings

end Jukebox.Command
