import Jukebox.Playback

/-
# Requests for many songs

The service adds and deletes one song at a time. To add or delete many is meant to be one act: when
a request in the middle fails, those before it are undone and the failure is reported. Undoing goes
on whatever the service says to it. Songs are deleted in the order of their places, so that each
song put back at its old place finds the songs before it in place again.
-/

namespace Jukebox

open Service

variable {σ : Type} [Service σ]

/-- Asks for something and goes on whatever the answer is. -/
def attempt (request : Request) : Exchange σ Unit :=
  tryCatch (discard (ask request)) fun _ => pure ()

/-- Puts a song at a place in the queue, or at its end. -/
def enqueue (uri : String) : Option Nat → Exchange σ Nat
  | some position => ask (.insert uri position)
  | none => ask (.add uri)

/-- Adds the rest of many songs from a place on, given the ids of those added before. -/
def addFrom (added : List Nat) : (position : Option Nat) → (uris : List String) →
    Exchange σ (List Nat)
  | _, [] => pure added
  | position, uri :: uris => do
    let id ← tryCatch (enqueue uri position) fun error => do
      added.forM fun id => attempt (.delete id)
      throw error
    addFrom (added ++ [id]) (position.map (· + 1)) uris

/-- Adds songs to the queue, from a place on or at its end, and gives their ids. If one cannot be
added, those before it are deleted again. -/
def addAll (uris : List String) (position : Option Nat) : Exchange σ (List Nat) :=
  addFrom [] position uris

/-- What is known of a song in the queue: enough to delete it and to put it back. -/
structure QueueEntry where
  id : Nat
  position : Nat
  file : String
deriving DecidableEq, Repr

/-- The queue entry of a song, if the song is in the queue. -/
def Song.queueEntry? (song : Song) : Option QueueEntry := do
  return { id := ← song.id, position := ← song.position, file := ← song.file? }

/-- Deletes the rest of many songs, given those deleted before. -/
def deleteFrom (deleted : List QueueEntry) : List QueueEntry → Exchange σ Unit
  | [] => pure ()
  | entry :: entries => do
    tryCatch (ask (.delete entry.id)) fun error => do
      deleted.forM fun entry => attempt (.insert entry.file entry.position)
      throw error
    deleteFrom (deleted ++ [entry]) entries

/-- Deletes songs from the queue. If one cannot be deleted, those before it are put back. Nothing is
asked of the service unless all of them are in the queue. -/
def deleteAll (songs : List Song) : Exchange σ Unit :=
  match songs.mapM Song.queueEntry? with
  | some entries => deleteFrom [] (entries.mergeSort fun a b => a.position ≤ b.position)
  | none => throw (.rejected "Song is not in the queue")

end Jukebox
