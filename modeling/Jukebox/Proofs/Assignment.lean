import Jukebox.Command.Configuring
import Jukebox.Proofs.Line
import Jukebox.Proofs.Outcome

/-
# Assignments that were read take effect

Assignments are checked while they are read, against the settings of that moment, and carried out at
the end of the line one after another. That none of them can fail then rests on two facts. Each was
read with a value of the kind that its setting has; and an assignment changes no kind, so the later
ones still fit when their turn comes. A switch is turned over by looking at earlier assignments on the
line, whose names are compared without regard to ASCII case only. That is finer than the comparison
that settings are found by.
-/

namespace Jukebox

namespace Text

/-- What is the same for the letters of ASCII in both cases is the same before and after all
lowering. -/
theorem apply_toLower {α : Type} {f : Char → α}
    (hletters : ∀ n < 26, f (Char.ofNat (65 + n)).toLower = f (Char.ofNat (65 + n))) (c : Char) :
    f c.toLower = f c := by
  by_cases hupper : c.val ≥ 'A'.val ∧ c.val ≤ 'Z'.val
  · have hlower : 65 ≤ c.toNat := UInt32.le_iff_toNat_le.1 hupper.1
    have hbound : c.toNat ≤ 90 := UInt32.le_iff_toNat_le.1 hupper.2
    have hsame : Char.ofNat (65 + (c.toNat - 65)) = c := by
      rw [Nat.add_sub_cancel' hlower, Char.ofNat_toNat]
    have h := hletters (c.toNat - 65) (by omega)
    rwa [hsame] at h
  · have hsame : c.toLower = c := dif_neg hupper
    rw [hsame]

theorem isCased_toLower (c : Char) : isCased c.toLower = isCased c :=
  apply_toLower (by decide +kernel) c

/-- No letter of ASCII is case-ignorable, as the blocks lie before, between and after them. -/
theorem isCaseIgnorable_letter {c : Char}
    (hletter : 65 ≤ c.toNat ∧ c.toNat ≤ 90 ∨ 97 ≤ c.toNat ∧ c.toNat ≤ 122) :
    isCaseIgnorable c = false := by
  have hblocks : ∀ block ∈ caseIgnorableBlocks,
      block.2 < 65 ∨ 90 < block.1 ∧ block.2 < 97 ∨ 122 < block.1 := by decide +kernel
  apply List.any_eq_false.2
  intro block hblock
  have := hblocks block hblock
  simp only [Bool.and_eq_true, decide_eq_true_eq]
  omega

theorem isCaseIgnorable_toLower (c : Char) : isCaseIgnorable c.toLower = isCaseIgnorable c := by
  refine apply_toLower (fun n hn => ?_) c
  have hupper : ∀ n < 26, (Char.ofNat (65 + n)).toNat = 65 + n := by decide
  have hlower : ∀ n < 26, (Char.ofNat (65 + n)).toLower.toNat = 97 + n := by decide
  rw [isCaseIgnorable_letter, isCaseIgnorable_letter]
  · rw [hupper n hn]
    omega
  · rw [hlower n hn]
    omega

theorem lowerChar_toLower (c : Char) : lowerChar c.toLower = lowerChar c :=
  apply_toLower (by decide +kernel) c

theorem toLower_eq_sigma_iff (c : Char) : c.toLower = 'Σ' ↔ c = 'Σ' :=
  decide_eq_decide.1 (apply_toLower (f := fun c => decide (c = 'Σ')) (by decide +kernel) c)

theorem meetsCased_map_toLower (text : List Char) :
    meetsCased (text.map Char.toLower) = meetsCased text := by
  have hskip : isCaseIgnorable ∘ Char.toLower = isCaseIgnorable :=
    funext isCaseIgnorable_toLower
  rw [meetsCased, List.dropWhile_map, hskip, meetsCased]
  cases text.dropWhile isCaseIgnorable with
  | nil => rfl
  | cons c _ => exact isCased_toLower c

theorem lowerFrom_map_toLower (before rest : List Char) :
    lowerFrom (before.map Char.toLower) (rest.map Char.toLower) = lowerFrom before rest := by
  induction rest generalizing before with
  | nil => rfl
  | cons c rest ih =>
    rw [List.map_cons, lowerFrom, lowerFrom, ← List.map_cons, ih]
    simp only [toLower_eq_sigma_iff, meetsCased_map_toLower, lowerChar_toLower]

/-- Texts that differ in the case of ASCII letters have one form in small letters. -/
theorem lowercase_eq_of_sameIgnoringAsciiCase {a b : String}
    (h : sameIgnoringAsciiCase a b = true) : lowercase a = lowercase b := by
  have hmap : a.toList.map Char.toLower = b.toList.map Char.toLower := eq_of_beq h
  unfold lowercase
  rw [← lowerFrom_map_toLower [] a.toList, ← lowerFrom_map_toLower [] b.toList, hmap]

end Text

open Text

namespace Settings

theorem kind_eq_ok_iff {s : Settings} {name : String} {kind : SettingKind} :
    s.kind name = .ok kind ↔ ∃ value, s.find? name = some value ∧ value.kind = kind := by
  unfold Settings.kind Settings.get
  cases s.find? name with
  | none => simp [Except.map]
  | some value => simp [Except.map]

theorem kind_congr {s : Settings} {name other : String} (h : lowercase name = lowercase other)
    {kind : SettingKind} (hkind : s.kind name = .ok kind) : s.kind other = .ok kind := by
  rw [kind_eq_ok_iff, find?, h] at hkind
  exact kind_eq_ok_iff.2 hkind

theorem kind_of_switchValue {s : Settings} {name : String} {on : Bool}
    (h : s.switchValue name = .ok on) : s.kind name = .ok .switch := by
  unfold switchValue Settings.get at h
  rw [kind_eq_ok_iff]
  cases hfind : s.find? name with
  | none =>
    rw [hfind] at h
    cases h
  | some value =>
    rw [hfind] at h
    cases value with
    | switch on => exact ⟨.switch on, rfl, rfl⟩
    | text text => cases h

/-- A value of the right kind is accepted. -/
theorem exists_set_eq_ok {s : Settings} {name : String} {value : SettingValue}
    (h : s.kind name = .ok value.kind) : ∃ after, s.set name value = .ok after := by
  obtain ⟨old, hfind, hkind⟩ := kind_eq_ok_iff.1 h
  unfold set
  rw [hfind]
  exact ⟨_, if_pos hkind⟩

/-- An assignment changes no kind. -/
theorem kind_of_set {s after : Settings} {name other : String} {value : SettingValue}
    {kind : SettingKind} (hset : s.set name value = .ok after) (hfits : s.kind name = .ok value.kind)
    (hother : s.kind other = .ok kind) : after.kind other = .ok kind := by
  rw [kind_eq_ok_iff, find?_set hset]
  split
  · next hsame =>
    have hkind : s.kind other = .ok value.kind := kind_congr hsame.symm hfits
    rw [hother] at hkind
    exact ⟨value, rfl, (Except.ok.inj hkind).symm⟩
  · exact kind_eq_ok_iff.1 hother

end Settings

namespace Command

variable {σ : Type}

/-- Assignments each of which has a value of the kind of its setting take effect, all of them. -/
theorem assignAll_of_fits {assigned : List (String × SettingValue)} {settings : Settings}
    (h : ∀ entry ∈ assigned, settings.kind entry.1 = .ok entry.2.kind) :
    (assignAll assigned settings).1 = .ok () := by
  induction assigned generalizing settings with
  | nil => rfl
  | cons entry rest ih =>
    obtain ⟨name, value⟩ := entry
    have hfits : settings.kind name = .ok value.kind := h (name, value) List.mem_cons_self
    obtain ⟨after, hset⟩ := Settings.exists_set_eq_ok hfits
    rw [assignAll, hset]
    apply ih
    intro other hother
    exact Settings.kind_of_set hset hfits (h other (List.mem_cons_of_mem _ hother))

/-- What was read so far fits the settings, and so does the setting that waits for a value. -/
structure Assignments.Fits (assigned : Assignments) (settings : Settings) : Prop where
  list : ∀ entry ∈ assigned.list, settings.kind entry.1 = .ok entry.2.kind
  waiting : ∀ name kind, assigned.waiting = some (name, kind) → settings.kind name = .ok kind

theorem kind_of_settingValue {name text : String} {kind : SettingKind} {value : SettingValue}
    (h : settingValue name kind text = .ok value) : value.kind = kind := by
  unfold settingValue at h
  cases kind with
  | text =>
    cases h
    rfl
  | switch =>
    simp only at h
    split at h
    · cases h
      rfl
    · split at h
      · cases h
        rfl
      · cases h

namespace Assignments

variable {assigned after : Assignments} {settings : Settings}

theorem Fits.add (h : assigned.Fits settings) {name : String} {value : SettingValue}
    (hvalue : settings.kind name = .ok value.kind) : (assigned.add name value).Fits settings := by
  refine ⟨fun entry hentry => ?_, h.waiting⟩
  rcases List.mem_append.1 hentry with hold | hnew
  · exact h.list entry hold
  · rw [List.mem_singleton] at hnew
    subst hnew
    exact hvalue

theorem Fits.supply (h : assigned.Fits settings) {name text : String} {kind : SettingKind}
    (hkind : settings.kind name = .ok kind) (hsupply : assigned.supply name kind text = .ok after) :
    after.Fits settings := by
  obtain ⟨value, hvalue, rfl⟩ := map_eq_ok_iff.1 hsupply
  have hnone : ({ assigned with waiting := none } : Assignments).Fits settings := ⟨h.list, nofun⟩
  exact hnone.add (by rw [kind_of_settingValue hvalue, hkind])

/-- A word that turns a switch over is the name of a switch, whether the switch was found among the
assignments so far or among the settings. -/
theorem Fits.kind_of_switchValue (h : assigned.Fits settings) {name : String} {on : Bool}
    (hswitch : assigned.switchValue settings name = .ok on) :
    settings.kind name = .ok .switch := by
  unfold Assignments.switchValue at hswitch
  split at hswitch
  · next found hfind =>
    have hsame := List.find?_some hfind
    have hmem := List.mem_reverse.1 (List.mem_of_find?_eq_some hfind)
    exact Settings.kind_congr (lowercase_eq_of_sameIgnoringAsciiCase hsame) (h.list _ hmem)
  · exact Settings.kind_of_switchValue hswitch

theorem Fits.readWord (h : assigned.Fits settings) {word : String}
    (hread : assigned.readWord settings word = .ok after) : after.Fits settings := by
  unfold Assignments.readWord at hread
  split at hread
  · next name text _ =>
    obtain ⟨kind, hkind, hread⟩ := bind_eq_ok_iff.1 hread
    rw [mapError_eq_ok_iff] at hkind
    split at hread
    · cases hread
      refine ⟨h.list, fun other otherKind hwaiting => ?_⟩
      cases hwaiting
      exact hkind
    · obtain ⟨value, hvalue, hread⟩ := bind_eq_ok_iff.1 hread
      cases hread
      exact h.add (by rw [kind_of_settingValue hvalue, hkind])
  · split at hread
    · next name _ =>
      obtain ⟨on, hon, hread⟩ := bind_eq_ok_iff.1 hread
      rw [mapError_eq_ok_iff] at hon
      cases hread
      exact h.add (h.kind_of_switchValue hon)
    · obtain ⟨kind, hkind, hread⟩ := bind_eq_ok_iff.1 hread
      rw [mapError_eq_ok_iff] at hkind
      cases kind with
      | switch =>
        cases hread
        exact h.add hkind
      | text => cases hread

theorem Fits.read (h : assigned.Fits settings) {session : Session σ}
    (hsettings : session.settings = settings) {token : Token}
    (hread : assignments.read session assigned token = .ok after) : after.Fits settings := by
  simp only [assignments] at hread
  subst hsettings
  split at hread
  · cases hread
  · next name kind hwaiting _ => exact h.supply (h.waiting name kind hwaiting) hread
  · next word _ _ => exact h.readWord hread
  · cases hread

/-- Reading any number of words keeps what was read fitting. -/
theorem Fits.foldlM_read {session : Session σ} {words : List Token}
    (h : assigned.Fits session.settings)
    (hread : words.foldlM (assignments.read session) assigned = .ok after) :
    after.Fits session.settings := by
  induction words generalizing assigned with
  | nil =>
    cases hread
    exact h
  | cons word words ih =>
    obtain ⟨next, hnext, hread⟩ := bind_eq_ok_iff.1 hread
    exact ih (h.read rfl hnext) hread

theorem Fits.result (h : assigned.Fits settings) {list : List (String × SettingValue)}
    (hresult : (assignments (σ := σ)).result assigned = .ok list) :
    ∀ entry ∈ list, settings.kind entry.1 = .ok entry.2.kind := by
  simp only [assignments] at hresult
  split at hresult
  · next name kind hwaiting =>
    obtain ⟨complete, hcomplete, hresult⟩ := bind_eq_ok_iff.1 hresult
    split at hresult
    · cases hresult
    · cases hresult
      exact (h.supply (h.waiting name kind hwaiting) hcomplete).list
  · obtain ⟨complete, hcomplete, hresult⟩ := bind_eq_ok_iff.1 hresult
    cases hcomplete
    split at hresult
    · cases hresult
    · cases hresult
      exact h.list

end Assignments

/-- The assignments of a line that was read without complaint take effect, all of them. -/
theorem assignAll_of_readLine {session : Session σ} {words : List Token}
    {assigned : List (String × SettingValue)}
    (hread : assignments.readLine session words = .ok assigned) :
    (assignAll assigned session.settings).1 = .ok () := by
  obtain ⟨read, hwords, hresult⟩ := bind_eq_ok_iff.1 hread
  have hstart : ({} : Assignments).Fits session.settings := ⟨nofun, nofun⟩
  exact assignAll_of_fits ((hstart.foldlM_read hwords).result hresult)

end Command

end Jukebox
