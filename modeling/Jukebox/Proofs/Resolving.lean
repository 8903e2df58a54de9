import Mathlib.Data.List.Chain
import Mathlib.Data.List.Induction
import Jukebox.Keymap.Resolver

/-
# What typed keys resolve to

Keys are on hold only while some binding begins with them and goes on, and their deadline is always
that of the last of them. From this it follows that no binding is out of reach: to type its keys in
time runs its command line, with the last key if no other binding goes on from there, and otherwise
once the deadline has passed. Keys that are held too long stand for the longest start of them that is
bound. None of this depends on how the bindings overlap, or on clocks that never go back.
-/

namespace Jukebox

namespace Keymap

/-- Some binding begins with the sequence and goes on. -/
def GoesOn (map : Keymap) (keys : List Key) : Prop :=
  ∃ longer, (map.get? longer).isSome ∧ keys <+: longer ∧ keys ≠ longer

/-- What keys stand for that are held too long. -/
inductive StandsFor (map : Keymap) (keys : List Key) : Option String → Prop
  | /-- The command line of a start that is bound, when no longer start is. -/
    start {start : List Key} {line : String} (hstart : start <+: keys)
      (hline : map.get? start = some line)
      (hlongest : ∀ longer, longer <+: keys → start.length < longer.length →
        map.get? longer = none) : StandsFor map keys (some line)
  | /-- Nothing, when no start is bound. -/
    nothing (hnone : ∀ start, start <+: keys → map.get? start = none) : StandsFor map keys none

/-- A sequence that is bound stands for its own command line. -/
theorem StandsFor.eq_some_of_bound {map : Keymap} {keys : List Key} {line : String}
    {line? : Option String} (h : map.StandsFor keys line?) (hline : map.get? keys = some line) :
    line? = some line := by
  cases h with
  | nothing hnone => exact absurd ((hnone keys (List.prefix_refl _)).symm.trans hline) nofun
  | @start start _ hstart hstartLine hlongest =>
    by_cases hlength : start.length < keys.length
    · exact absurd ((hlongest keys (List.prefix_refl _) hlength).symm.trans hline) nofun
    · rw [hstart.eq_of_length_le (Nat.not_lt.1 hlength), hline] at hstartLine
      exact hstartLine.symm

theorem hasLonger_iff_goesOn {map : Keymap} {keys : List Key} :
    map.hasLonger keys ↔ map.GoesOn keys := by
  unfold hasLonger GoesOn get?
  simp only [List.any_eq_true, Bool.and_eq_true, decide_eq_true_eq, List.isPrefixOf_iff_prefix,
    List.lookup_isSome_iff, beq_iff_eq]
  constructor
  · rintro ⟨⟨longer, line⟩, hmem, hlength, hbegins⟩
    exact ⟨longer, ⟨(longer, line), hmem, rfl⟩, hbegins, fun h => hlength.ne (congrArg _ h)⟩
  · rintro ⟨longer, ⟨⟨_, line⟩, hmem, rfl⟩, hbegins, hne⟩
    refine ⟨_, hmem, Nat.lt_of_not_le fun hle => hne (hbegins.eq_of_length_le hle), hbegins⟩

/-- What a binding goes on from, it goes on from at an earlier key too. -/
theorem GoesOn.of_prefix {map : Keymap} {keys keys' : List Key} (h : map.GoesOn keys)
    (hbegins : keys' <+: keys) : map.GoesOn keys' := by
  obtain ⟨longer, hbound, hlonger, hne⟩ := h
  refine ⟨longer, hbound, hbegins.trans hlonger, ?_⟩
  rintro rfl
  exact hne (hlonger.eq_of_length_le hbegins.length_le)

/-- A bound sequence goes on from all but the whole of itself. -/
theorem goesOn_of_concat {map : Keymap} {keys : List Key} {key : Key} {line : String}
    (h : map.get? (keys ++ [key]) = some line) : map.GoesOn keys :=
  ⟨keys ++ [key], Option.isSome_of_mem h, List.prefix_append _ _, by simp⟩

end Keymap

namespace Resolver

variable {r : Resolver} {now : Nat}

/-- The keys on hold were held too long. -/
def Expired (r : Resolver) (now : Nat) : Prop := ∃ held, r.held = some held ∧ held.deadline ≤ now

theorem not_expired_of_idle (hidle : r.held = none) : ¬ r.Expired now := by
  rintro ⟨held, hheld, -⟩
  exact absurd (hidle.symm.trans hheld) nofun

theorem Expired.isSome (hexpired : r.Expired now) : r.held.isSome := by
  obtain ⟨held, hheld, -⟩ := hexpired
  exact Option.isSome_of_mem hheld

theorem expire_of_expired (hexpired : r.Expired now) (map : Keymap) :
    r.expire map now = (longestBound? map r.keys, r.cancel) := by
  obtain ⟨held, hheld, hlate⟩ := hexpired
  unfold expire keys
  rw [hheld]
  exact if_neg (Nat.not_lt.2 hlate)

theorem expire_of_not_expired (hwaiting : ¬ r.Expired now) (map : Keymap) :
    r.expire map now = (none, r) := by
  unfold expire
  split
  · next held hheld => exact if_pos (Nat.not_le.1 fun hlate => hwaiting ⟨held, hheld, hlate⟩)
  · rfl

/-- What can become of a key that is added to those on hold. -/
inductive Extended (r : Resolver) (map : Keymap) (key : Key) (now : Nat) :
    Resolution × Resolver → Prop
  | /-- A longer sequence may be meant. -/
    held (hlonger : map.hasLonger (r.keys ++ [key])) :
      Extended r map key now
        (.pending, { r with held := some { keys := r.keys ++ [key], deadline := now + r.timeout } })
  | /-- The sequence has a command line. -/
    bound (line : String) (hlonger : ¬ map.hasLonger (r.keys ++ [key])) :
      Extended r map key now (.dispatch line, r.cancel)
  | /-- The sequence means nothing. -/
    unbound (hlonger : ¬ map.hasLonger (r.keys ++ [key])) :
      Extended r map key now (.unbound, r.cancel)

theorem extended (r : Resolver) (map : Keymap) (key : Key) (now : Nat) :
    Extended r map key now (r.extend map key now) := by
  unfold extend
  dsimp only
  split
  · next hlonger => exact .held hlonger
  · next hlonger =>
    split
    · exact .bound _ hlonger
    · exact .unbound hlonger

variable {map : Keymap} {key : Key}

theorem extend_of_unbound (h : (r.extend map key now).1 = .unbound) :
    (r.extend map key now).2 = r.cancel := by
  have hcases := r.extended map key now
  generalize r.extend map key now = outcome at h hcases ⊢
  cases hcases with
  | held => cases h
  | bound | unbound => rfl

theorem extend_of_goesOn (hgoes : map.GoesOn (r.keys ++ [key])) :
    r.extend map key now =
      (.pending, { r with held := some { keys := r.keys ++ [key], deadline := now + r.timeout } }) :=
  if_pos (Keymap.hasLonger_iff_goesOn.2 hgoes)

theorem extend_of_bound {line : String} (hends : ¬ map.GoesOn (r.keys ++ [key]))
    (hline : map.get? (r.keys ++ [key]) = some line) :
    r.extend map key now = (.dispatch line, r.cancel) := by
  unfold extend
  dsimp only
  rw [if_neg (Keymap.hasLonger_iff_goesOn.not.2 hends), hline]

/-- A key that comes in time is added to those on hold. -/
theorem press_of_not_expired (hwaiting : ¬ r.Expired now) :
    r.press map key now = ([(r.extend map key now).1], (r.extend map key now).2) := by
  unfold press
  rw [expire_of_not_expired hwaiting]
  rfl

section Starts

theorem mem_starts_iff {start keys : List Key} : start ∈ starts keys ↔ start <+: keys ∧ start ≠ [] := by
  induction keys generalizing start with
  | nil => simp [starts]
  | cons key rest ih =>
    rw [starts, List.mem_append, List.mem_map, List.mem_singleton, List.prefix_cons_iff]
    constructor
    · rintro (⟨tail, htail, rfl⟩ | rfl)
      · exact ⟨.inr ⟨tail, rfl, (ih.1 htail).1⟩, List.cons_ne_nil _ _⟩
      · exact ⟨.inr ⟨[], rfl, List.nil_prefix⟩, List.cons_ne_nil _ _⟩
    · rintro ⟨rfl | ⟨tail, rfl, htail⟩, hne⟩
      · exact absurd rfl hne
      · by_cases hnil : tail = []
        · exact .inr (by rw [hnil])
        · exact .inl ⟨tail, ih.2 ⟨htail, hnil⟩, rfl⟩

/-- Longer starts come first. -/
theorem pairwise_starts (keys : List Key) :
    (starts keys).Pairwise fun longer shorter => shorter.length < longer.length := by
  induction keys with
  | nil => exact List.Pairwise.nil
  | cons key rest ih =>
    rw [starts, List.pairwise_append, List.pairwise_map]
    refine ⟨ih.imp fun h => Nat.succ_lt_succ h, List.pairwise_singleton _ _, ?_⟩
    intro longer hlonger shorter hshorter
    obtain ⟨tail, htail, rfl⟩ := List.mem_map.1 hlonger
    rw [List.mem_singleton.1 hshorter]
    exact Nat.succ_lt_succ (List.length_pos_of_ne_nil (mem_starts_iff.1 htail).2)

/-- Where the empty sequence is not bound, the longest start that is bound is found. -/
theorem standsFor_longestBound? (hmap : map.get? [] = none) (keys : List Key) :
    map.StandsFor keys (longestBound? map keys) := by
  have hother (longer : List Key) (hlonger : longer <+: keys) (hnot : longer ∉ starts keys) :
      map.get? longer = none := by
    have hnil : longer = [] := by_contra fun hne => hnot (mem_starts_iff.2 ⟨hlonger, hne⟩)
    rw [hnil, hmap]
  unfold longestBound?
  cases hfound : (starts keys).findSome? map.get? with
  | none =>
    refine .nothing fun start hstart => ?_
    by_cases hmem : start ∈ starts keys
    · exact List.findSome?_eq_none_iff.1 hfound start hmem
    · exact hother start hstart hmem
  | some line =>
    obtain ⟨longer, start, shorter, hstarts, hline, hnone⟩ := List.findSome?_eq_some_iff.1 hfound
    have hstart : start ∈ starts keys := by
      rw [hstarts]
      exact List.mem_append_right _ List.mem_cons_self
    refine .start (mem_starts_iff.1 hstart).1 hline fun other hbegins hlength => ?_
    by_cases hmem : other ∈ starts keys
    · have hpairwise := pairwise_starts keys
      rw [hstarts] at hmem hpairwise
      rcases List.mem_append.1 hmem with hbefore | hafter
      · exact hnone other hbefore
      · -- what comes after the start that is found is not longer than it
        rcases List.mem_cons.1 hafter with rfl | hshorter
        · exact absurd hlength (Nat.lt_irrefl _)
        · have hlt := List.rel_of_pairwise_cons (List.pairwise_append.1 hpairwise).2.1 hshorter
          exact absurd hlength (Nat.lt_asymm hlt)
    · exact hother other hbegins hmem

end Starts

/-- What happens to a resolver. -/
inductive Event where
  | press (key : Key) (now : Nat)
  | expire (now : Nat)
  | cancel
deriving DecidableEq, Repr

/-- The key that is pressed, and when. -/
def Event.pressed? : Event → Option (Key × Nat)
  | press key now => some (key, now)
  | expire _ | cancel => none

/-- A resolver after something happened to it. -/
def step (map : Keymap) (r : Resolver) : Event → Resolver
  | .press key now => (r.press map key now).2
  | .expire now => (r.expire map now).2
  | .cancel => r.cancel

/-- A resolver after a run of events. -/
def run (map : Keymap) (r : Resolver) (events : List Event) : Resolver := events.foldl (step map) r

/-- Why keys are on hold, after these were pressed at these times. -/
structure Awaits (map : Keymap) (timeout : Nat) (pressed : List (Key × Nat)) (held : HeldKeys) :
    Prop where
  ne_nil : held.keys ≠ []
  goesOn : map.GoesOn held.keys
  /-- They are the last keys that were pressed, and the very last of them set the deadline. -/
  typed : ∃ earlier before key now, pressed = earlier ++ before ++ [(key, now)] ∧
    held.keys = before.map (·.1) ++ [key] ∧ held.deadline = now + timeout

/-- A resolver holds no keys without a reason. -/
structure Justified (map : Keymap) (timeout : Nat) (pressed : List (Key × Nat)) (r : Resolver) :
    Prop where
  timeout_eq : r.timeout = timeout
  held : ∀ held, r.held = some held → Awaits map timeout pressed held

section Run

variable {timeout : Nat} {pressed : List (Key × Nat)}

theorem justified_idle : Justified map timeout pressed { timeout } := ⟨rfl, nofun⟩

theorem Justified.cancel (h : r.Justified map timeout pressed) (pressed' : List (Key × Nat)) :
    r.cancel.Justified map timeout pressed' :=
  ⟨h.timeout_eq, nofun⟩

theorem Justified.expire (h : r.Justified map timeout pressed) (now : Nat) :
    (r.expire map now).2.Justified map timeout pressed := by
  by_cases hexpired : r.Expired now
  · rw [expire_of_expired hexpired]
    exact h.cancel pressed
  · rw [expire_of_not_expired hexpired]
    exact h

theorem Justified.extend (h : r.Justified map timeout pressed) (key : Key) (now : Nat) :
    (r.extend map key now).2.Justified map timeout (pressed ++ [(key, now)]) := by
  have hcases := r.extended map key now
  generalize r.extend map key now = outcome at hcases ⊢
  cases hcases with
  | bound | unbound => exact h.cancel _
  | held hlonger =>
    obtain ⟨rfl, hheld⟩ := h
    refine ⟨rfl, ?_⟩
    rintro _ ⟨⟩
    refine ⟨List.concat_ne_nil _ _, Keymap.hasLonger_iff_goesOn.1 hlonger, ?_⟩
    -- the key is the first on hold, or it comes right after the last one
    cases hkeys : r.held with
    | none => exact ⟨pressed, [], key, now, by simp, by simp [Resolver.keys, hkeys], rfl⟩
    | some held =>
      obtain ⟨-, -, earlier, before, last, time, hpressed, htaken, -⟩ := hheld held hkeys
      refine ⟨earlier, before ++ [(last, time)], key, now, ?_, ?_, rfl⟩
      · rw [hpressed, List.append_assoc earlier]
      · simp [Resolver.keys, hkeys, htaken]

theorem Justified.step (h : r.Justified map timeout pressed) (event : Event) :
    (r.step map event).Justified map timeout (pressed ++ event.pressed?.toList) := by
  cases event with
  | press key now => exact (h.expire now).extend key now
  | expire now => exact (List.append_nil pressed).symm ▸ h.expire now
  | cancel => exact (List.append_nil pressed).symm ▸ h.cancel pressed

theorem Justified.run (h : r.Justified map timeout pressed) (events : List Event) :
    (r.run map events).Justified map timeout (pressed ++ events.filterMap Event.pressed?) := by
  induction events generalizing r pressed with
  | nil => exact (List.append_nil pressed).symm ▸ h
  | cons event events ih =>
    have hrest := ih (h.step event)
    have hpressed : (event :: events).filterMap Event.pressed? =
        event.pressed?.toList ++ events.filterMap Event.pressed? := by
      cases event <;> rfl
    rw [hpressed, ← List.append_assoc]
    exact hrest

end Run

/-- Presses keys one after another, each at its time; with what each of them amounts to. -/
def pressAll (map : Keymap) : List (Key × Nat) → Resolver → List (List Resolution) × Resolver
  | [], r => ([], r)
  | (key, now) :: typed, r =>
    let (resolutions, r) := r.press map key now
    let (rest, r) := pressAll map typed r
    (resolutions :: rest, r)

/-- Each key comes before the deadline that the one before it sets. -/
def InTime (timeout : Nat) (typed : List (Key × Nat)) : Prop :=
  typed.IsChain fun earlier later => later.2 < earlier.2 + timeout

/-- What becomes of a bound sequence that is typed while nothing is on hold. -/
structure Reaches (map : Keymap) (timeout : Nat) (typed : List (Key × Nat)) (line : String) :
    Prop where
  /-- Its command line runs with the last key if no longer binding begins with it. -/
  atOnce : ¬ map.GoesOn (typed.map (·.1)) →
    pressAll map typed { timeout } =
      (List.replicate (typed.length - 1) [.pending] ++ [[.dispatch line]], { timeout })
  /-- If one does, it is put on hold, and its command line runs when it expires. -/
  expiring : map.GoesOn (typed.map (·.1)) →
    ∃ held, pressAll map typed { timeout } =
        (List.replicate typed.length [.pending], { timeout, held := some held }) ∧
      ∀ now, held.deadline ≤ now →
        Resolver.expire map now { timeout, held := some held } = (some line, { timeout })

theorem pressAll_append (map : Keymap) (first second : List (Key × Nat)) (r : Resolver) :
    pressAll map (first ++ second) r =
      ((pressAll map first r).1 ++ (pressAll map second (pressAll map first r).2).1,
        (pressAll map second (pressAll map first r).2).2) := by
  induction first generalizing r with
  | nil => rfl
  | cons typed first ih => simp only [List.cons_append, pressAll, ih]

/-- A resolver that holds keys that were typed. -/
def holding (timeout : Nat) (typed : List (Key × Nat)) : Resolver :=
  { timeout
    held := typed.getLast?.map fun last =>
      { keys := typed.map (·.1), deadline := last.2 + timeout } }

section Typed

variable {timeout : Nat} {typed : List (Key × Nat)}

theorem keys_holding (timeout : Nat) (typed : List (Key × Nat)) :
    (holding timeout typed).keys = typed.map (·.1) := by
  cases typed with
  | nil => rfl
  | cons first typed => simp [holding, keys, List.getLast?_cons]

theorem not_expired_holding (h : InTime timeout (typed ++ [(key, now)])) :
    ¬ (holding timeout typed).Expired now := by
  rintro ⟨held, hheld, hlate⟩
  obtain ⟨last, hlast, rfl⟩ := Option.map_eq_some_iff.1 hheld
  have hnext := (List.isChain_append.1 h).2.2 last hlast (key, now) rfl
  exact absurd hlate (Nat.not_le.2 hnext)

/-- A key that comes in time finds the keys before it on hold. -/
theorem press_holding (h : InTime timeout (typed ++ [(key, now)])) :
    (holding timeout typed).press map key now =
      ([((holding timeout typed).extend map key now).1],
        ((holding timeout typed).extend map key now).2) :=
  press_of_not_expired (not_expired_holding h)

/-- Keys that come in time are put on hold as long as some binding goes on from them. -/
theorem pressAll_of_goesOn (hintime : InTime timeout typed) (hgoes : map.GoesOn (typed.map (·.1))) :
    pressAll map typed { timeout } =
      (List.replicate typed.length [.pending], holding timeout typed) := by
  induction typed using List.reverseRecOn with
  | nil => rfl
  | append_singleton typed last ih =>
    obtain ⟨key, now⟩ := last
    rw [List.map_append] at hgoes
    have hbefore := ih (List.isChain_append.1 hintime).1
      (hgoes.of_prefix (List.prefix_append _ _))
    have hextend : (holding timeout typed).extend map key now =
        (.pending, holding timeout (typed ++ [(key, now)])) := by
      rw [extend_of_goesOn (by rw [keys_holding]; exact hgoes), keys_holding]
      simp [holding]
    rw [pressAll_append, hbefore, pressAll, press_holding hintime, hextend,
      List.length_append, List.replicate_add]
    rfl

/-- Keys that are held too long are let go of, and their longest bound start runs. -/
theorem exists_expire (hmap : map.get? [] = none) {held : HeldKeys} (hheld : r.held = some held)
    (hlate : held.deadline ≤ now) :
    ∃ line?, r.expire map now = (line?, { timeout := r.timeout }) ∧
      map.StandsFor held.keys line? := by
  have hkeys : r.keys = held.keys := by simp [keys, hheld]
  exact ⟨longestBound? map held.keys, hkeys ▸ expire_of_expired ⟨held, hheld, hlate⟩ map,
    standsFor_longestBound? hmap held.keys⟩

/-- To type a bound sequence in time runs its command line. -/
theorem reaches_of_bound (hmap : map.get? [] = none) {line : String}
    (hline : map.get? (typed.map (·.1)) = some line) (hintime : InTime timeout typed) :
    Reaches map timeout typed line := by
  induction typed using List.reverseRecOn with
  | nil => exact absurd (hmap.symm.trans hline) nofun
  | append_singleton before last _ =>
    obtain ⟨key, now⟩ := last
    constructor
    · intro hends
      rw [List.map_append] at hline hends
      have hbefore := pressAll_of_goesOn (List.isChain_append.1 hintime).1
        (Keymap.goesOn_of_concat hline)
      have hextend : (holding timeout before).extend map key now =
          (.dispatch line, { timeout }) := by
        rw [← keys_holding timeout] at hline hends
        exact extend_of_bound hends hline
      rw [pressAll_append, hbefore, pressAll, press_holding hintime, hextend,
        List.length_append, List.length_singleton, Nat.add_sub_cancel]
      rfl
    · intro hgoes
      let held : HeldKeys := { keys := (before ++ [(key, now)]).map (·.1), deadline := now + timeout }
      have hheld : holding timeout (before ++ [(key, now)]) = { timeout, held := some held } := by
        simp [holding, held]
      refine ⟨held, hheld ▸ pressAll_of_goesOn hintime hgoes, fun later hlate => ?_⟩
      obtain ⟨line?, hexpire, hstands⟩ := exists_expire (r := { timeout, held := some held }) hmap
        rfl hlate
      rw [hexpire, hstands.eq_some_of_bound hline]

end Typed

/-- Let no binding be empty. Whatever happens to a resolver, it holds keys only while a binding goes on
from them, until the timeout after the last of them; held too long, they run their longest bound
start. And whatever is bound is run by typing it in time. -/
theorem every_binding_is_reached (map : Keymap) (hmap : map.get? [] = none) (timeout : Nat) :
    (∀ events held, (run map { timeout } events).held = some held →
      Awaits map timeout (events.filterMap Event.pressed?) held ∧
      ∀ now, held.deadline ≤ now →
        ∃ line?, (run map { timeout } events).expire map now = (line?, { timeout }) ∧
          map.StandsFor held.keys line?) ∧
    ∀ typed line, map.get? (typed.map (·.1)) = some line → InTime timeout typed →
      Reaches map timeout typed line := by
  refine ⟨fun events held hheld => ?_, fun typed line => reaches_of_bound hmap⟩
  have hidle : Justified map timeout [] { timeout } := justified_idle
  have hjustified := hidle.run events
  refine ⟨hjustified.held held hheld, fun now hlate => ?_⟩
  have hexpire := exists_expire hmap hheld hlate
  rwa [hjustified.timeout_eq] at hexpire

/-- Two bindings, of which the longer begins with the shorter. -/
def overlapping : Keymap :=
  { bindings := [([.ofChar 'g'], "cursor home"), ([.ofChar 'g', .ofChar 'g'], "cursor end")] }

/-- The longer one runs with its last key, the shorter one when it expires. -/
theorem overlapping_bindings_are_reached :
    overlapping.get? [] = none ∧
    pressAll overlapping [(.ofChar 'g', 0), (.ofChar 'g', 400)] { timeout := 1000 } =
      ([[.pending], [.dispatch "cursor end"]], { timeout := 1000 }) ∧
    ∃ line?, (run overlapping { timeout := 1000 } [.press (.ofChar 'g') 0]).expire overlapping 1000 =
        (line?, { timeout := 1000 }) ∧
      overlapping.StandsFor [.ofChar 'g'] line? := by
  have hmap : overlapping.get? [] = none := by decide
  obtain ⟨hheld, hbound⟩ := every_binding_is_reached overlapping hmap 1000
  refine ⟨hmap, ?_, ?_⟩
  · have hends : ¬ overlapping.GoesOn [.ofChar 'g', .ofChar 'g'] := by
      rw [← Keymap.hasLonger_iff_goesOn]
      decide
    have hreached := hbound [(.ofChar 'g', 0), (.ofChar 'g', 400)] "cursor end" (by decide)
      (by simp [InTime])
    exact hreached.atOnce hends
  · exact (hheld [.press (.ofChar 'g') 0] ⟨[.ofChar 'g'], 1000⟩ (by decide)).2 1000 (Nat.le_refl _)

end Resolver

end Jukebox
