import Jukebox.Keymap

/-
# Resolving typed keys

Keys are collected as long as some binding begins with them and goes on. When none does, the
collected sequence is either bound, and its command line runs, or dropped. A sequence on hold has a
deadline, set anew by each key; once it has passed, the longest part from its start that is bound
runs in place of the whole. Nothing happens at the deadline itself: whoever looks next, with a time
that is not before it, finds the sequence expired.
-/

namespace Jukebox

/-- The keys typed so far of a longer sequence, and until when they wait for the next one. -/
structure HeldKeys where
  keys : List Key
  deadline : Nat
deriving DecidableEq, Repr

/-- What a key amounts to. -/
inductive Resolution where
  /-- Run this command line. -/
  | dispatch (line : String)
  /-- Wait for more keys. -/
  | pending
  /-- The sequence means nothing. -/
  | unbound
deriving DecidableEq, Repr

/-- Collects keys. All times are in milliseconds. -/
structure Resolver where
  /-- How long a sequence is held after its last key. -/
  timeout : Nat
  held : Option HeldKeys := none
deriving DecidableEq, Repr

namespace Resolver

/-- How long a sequence is held unless asked otherwise. -/
def defaultTimeout : Nat := 1000

/-- The keys on hold. -/
def keys (r : Resolver) : List Key := (r.held.map (·.keys)).getD []

/-- Until when they are held. -/
def deadline? (r : Resolver) : Option Nat := r.held.map (·.deadline)

/-- Lets go of the keys on hold. -/
def cancel (r : Resolver) : Resolver := { r with held := none }

/-- The starts of a sequence, the whole of it first; the empty one is left out. -/
def starts : List Key → List (List Key)
  | [] => []
  | key :: rest => (starts rest).map (key :: ·) ++ [[key]]

/-- The command line of the longest start of a sequence that is bound. -/
def longestBound? (map : Keymap) (keys : List Key) : Option String :=
  (starts keys).findSome? map.get?

/-- Lets go of the keys on hold if their deadline has come, and gives the command line they then
stand for. -/
def expire (map : Keymap) (now : Nat) (r : Resolver) : Option String × Resolver :=
  match r.held with
  | some held =>
    if now < held.deadline then (none, r) else (longestBound? map held.keys, r.cancel)
  | none => (none, r)

/-- Adds a key to those on hold. -/
def extend (map : Keymap) (key : Key) (now : Nat) (r : Resolver) : Resolution × Resolver :=
  let keys := r.keys ++ [key]
  if map.hasLonger keys then
    (.pending, { r with held := some { keys, deadline := now + r.timeout } })
  else
    match map.get? keys with
    | some line => (.dispatch line, r.cancel)
    | none => (.unbound, r.cancel)

/-- Takes a key in. Keys that were held too long are resolved first, so that their command line
comes out ahead of whatever the new key starts. -/
def press (map : Keymap) (key : Key) (now : Nat) (r : Resolver) : List Resolution × Resolver :=
  let (expired, r) := r.expire map now
  let (resolution, r) := r.extend map key now
  (expired.toList.map .dispatch ++ [resolution], r)

end Resolver

end Jukebox
