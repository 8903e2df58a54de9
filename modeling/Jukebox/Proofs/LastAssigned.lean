import Jukebox.Proofs.Assignment

/-
# What assignments leave

Of several assignments to one setting the last one counts. So what assignments leave of the settings
can be read off the last value that they give to each, and which settings there are and of what kind
is not touched at all.
-/

namespace Jukebox

open Text

namespace Settings

variable {s t : Settings} {name : String} {value : SettingValue}

theorem kind_eq (s : Settings) (name : String) :
    s.kind name = match s.find? name with
      | some value => .ok value.kind
      | none => .error (.unregistered name) := by
  unfold Settings.kind get
  cases s.find? name <;> rfl

theorem isRegistered_eq_of_kind_eq (h : ∀ name, t.kind name = s.kind name) (name : String) :
    t.isRegistered name = s.isRegistered name := by
  have hkind := h name
  rw [kind_eq, kind_eq] at hkind
  unfold isRegistered
  cases hfirst : t.find? name <;> cases hsecond : s.find? name <;> simp_all

theorem entries_set (h : s.set name value = .ok t) :
    t.entries = s.entries.map fun entry =>
      (entry.1, if entry.1 = lowercase name then value else entry.2) := by
  unfold set at h
  split at h
  · cases h
  · split at h
    · cases h
      refine List.map_congr_left fun entry _ => ?_
      split <;> rfl
    · cases h

end Settings

namespace Command

variable {settings : Settings} {assigned : List (String × SettingValue)}

/-- The settings that assignments leave. -/
def settle (assigned : List (String × SettingValue)) (settings : Settings) : Settings :=
  (assignAll assigned settings).2

/-- The value that assignments give to a setting last. The setting is named in small letters. -/
def lastValue? (assigned : List (String × SettingValue)) (key : String) : Option SettingValue :=
  (assigned.reverse.find? fun entry => lowercase entry.1 = key).map (·.2)

/-- Each value is of the kind of its setting. -/
def AllFit (settings : Settings) (assigned : List (String × SettingValue)) : Prop :=
  ∀ entry ∈ assigned, settings.kind entry.1 = .ok entry.2.kind

theorem lastValue?_cons (entry : String × SettingValue) (assigned : List (String × SettingValue))
    (key : String) :
    lastValue? (entry :: assigned) key =
      (lastValue? assigned key).or (if lowercase entry.1 = key then some entry.2 else none) := by
  unfold lastValue?
  rw [List.reverse_cons, List.find?_append, Option.map_or]
  congr 1
  split
  · next h => rw [List.find?_cons_of_pos (by simpa using h)]; rfl
  · next h => rw [List.find?_cons_of_neg (by simpa using h)]; rfl

theorem kind_of_set_of_fits {s t : Settings} {name : String} {value : SettingValue}
    (hfits : s.kind name = .ok value.kind) (hset : s.set name value = .ok t) (other : String) :
    t.kind other = s.kind other := by
  rw [Settings.kind_eq, Settings.find?_set hset]
  by_cases hsame : lowercase other = lowercase name
  · rw [if_pos hsame]
    exact (Settings.kind_congr hsame.symm hfits).symm
  · rw [if_neg hsame]
    exact (Settings.kind_eq s other).symm

theorem settle_cons {entry : String × SettingValue} (h : AllFit settings (entry :: assigned)) :
    ∃ next, settings.set entry.1 entry.2 = .ok next ∧ AllFit next assigned ∧
      settle (entry :: assigned) settings = settle assigned next := by
  obtain ⟨name, value⟩ := entry
  have hfits : settings.kind name = .ok value.kind := h (name, value) List.mem_cons_self
  obtain ⟨next, hset⟩ := Settings.exists_set_eq_ok hfits
  refine ⟨next, hset, ?_, ?_⟩
  · intro other hother
    rw [kind_of_set_of_fits hfits hset]
    exact h other (List.mem_cons_of_mem _ hother)
  · unfold settle
    rw [assignAll, hset]

/-- Assignments leave each setting in its place, with the last value that they give to it. -/
theorem entries_settle (h : AllFit settings assigned) :
    (settle assigned settings).entries = settings.entries.map fun entry =>
      (entry.1, (lastValue? assigned entry.1).getD entry.2) := by
  induction assigned generalizing settings with
  | nil => exact (List.map_id settings.entries).symm
  | cons entry assigned ih =>
    obtain ⟨next, hset, hnext, hsettle⟩ := settle_cons h
    rw [hsettle, ih hnext, Settings.entries_set hset, List.map_map]
    refine List.map_congr_left fun old _ => ?_
    rw [Function.comp_apply, lastValue?_cons]
    by_cases hname : old.1 = lowercase entry.1
    · rw [if_pos hname, if_pos hname.symm]
      cases lastValue? assigned old.1 <;> rfl
    · rw [if_neg hname, if_neg (Ne.symm hname), Option.or_none]

theorem names_settle (h : AllFit settings assigned) :
    (settle assigned settings).entries.map (·.1) = settings.entries.map (·.1) := by
  rw [entries_settle h, List.map_map]
  rfl

theorem kind_settle (h : AllFit settings assigned) (name : String) :
    (settle assigned settings).kind name = settings.kind name := by
  induction assigned generalizing settings with
  | nil => rfl
  | cons entry assigned ih =>
    obtain ⟨next, hset, hnext, hsettle⟩ := settle_cons h
    rw [hsettle, ih hnext, kind_of_set_of_fits (h entry List.mem_cons_self) hset]

theorem settle_append {more : List (String × SettingValue)} (h : AllFit settings assigned) :
    settle (assigned ++ more) settings = settle more (settle assigned settings) := by
  induction assigned generalizing settings with
  | nil => rfl
  | cons entry assigned ih =>
    obtain ⟨next, hset, hnext, hsettle⟩ := settle_cons h
    rw [hsettle, ← ih hnext, List.cons_append]
    unfold settle
    rw [assignAll, hset]

theorem find?_settle (h : AllFit settings assigned) (name : String) :
    (settle assigned settings).find? name =
      (settings.find? name).map fun old => (lastValue? assigned (lowercase name)).getD old := by
  unfold Settings.find?
  rw [entries_settle h]
  induction settings.entries with
  | nil => rfl
  | cons entry entries ih =>
    obtain ⟨key, old⟩ := entry
    rw [List.map_cons, List.lookup_cons, List.lookup_cons, ih]
    cases hsame : lowercase name == key with
    | true =>
      rw [eq_of_beq hsame]
      rfl
    | false => rfl

end Command

end Jukebox
