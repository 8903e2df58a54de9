import Jukebox.Key

/-
# Key bindings

A keymap says which command line a key sequence stands for. A sequence is bound at most once; to
bind it again replaces the command line. Sequences may begin with one another, which is why a
sequence that is typed has to be held until it is clear which one is meant.
-/

namespace Jukebox

/-- Key sequences with the command lines bound to them, each sequence at most once. -/
structure Keymap where
  bindings : List (List Key × String) := []

namespace Keymap

/-- The command line bound to a sequence. -/
def get? (map : Keymap) (keys : List Key) : Option String :=
  map.bindings.lookup keys

/-- Takes away the binding of a sequence, if there is one. -/
def erase (map : Keymap) (keys : List Key) : Keymap :=
  { bindings := map.bindings.filter fun binding => binding.1 ≠ keys }

/-- Binds a sequence, in place of what it was bound to. -/
def insert (map : Keymap) (keys : List Key) (command : String) : Keymap :=
  { bindings := (keys, command) :: (map.erase keys).bindings }

/-- Whether some binding begins with the sequence and goes on. -/
def hasLonger (map : Keymap) (keys : List Key) : Bool :=
  map.bindings.any fun binding =>
    keys.length < binding.1.length && keys.isPrefixOf binding.1

/-- The number of bindings. -/
def size (map : Keymap) : Nat := map.bindings.length

theorem lookup_filter_ne (bindings : List (List Key × String)) {keys other : List Key}
    (h : other ≠ keys) :
    (bindings.filter fun binding => binding.1 ≠ keys).lookup other = bindings.lookup other := by
  induction bindings with
  | nil => rfl
  | cons binding rest ih =>
    obtain ⟨bound, command⟩ := binding
    by_cases hb : bound = keys
    · subst hb
      have hne : (other == bound) = false := by simpa using h
      simpa [List.lookup_cons, hne] using ih
    · simp only [ne_eq, hb, not_false_eq_true, decide_true, List.filter_cons_of_pos,
        List.lookup_cons]
      split
      · rfl
      · simpa using ih

theorem lookup_filter_self (bindings : List (List Key × String)) (keys : List Key) :
    (bindings.filter fun binding => binding.1 ≠ keys).lookup keys = none := by
  induction bindings with
  | nil => rfl
  | cons binding rest ih =>
    obtain ⟨bound, command⟩ := binding
    by_cases hb : bound = keys
    · simpa [hb] using ih
    · have hne : (keys == bound) = false := by simpa using Ne.symm hb
      simpa [hb, List.lookup_cons, hne] using ih

@[simp] theorem get?_erase (map : Keymap) (keys other : List Key) :
    (map.erase keys).get? other = if other = keys then none else map.get? other := by
  by_cases h : other = keys
  · subst h
    simpa [erase, get?] using lookup_filter_self map.bindings other
  · simpa [erase, get?, h] using lookup_filter_ne map.bindings h

@[simp] theorem get?_insert (map : Keymap) (keys other : List Key) (command : String) :
    (map.insert keys command).get? other =
      if other = keys then some command else map.get? other := by
  by_cases h : other = keys
  · subst h
    simp [insert, get?]
  · have hne : (other == keys) = false := by simpa using h
    have := get?_erase map keys other
    simp only [get?, h, if_false] at this
    simp [insert, get?, List.lookup_cons, hne, h, this]

end Keymap

end Jukebox
