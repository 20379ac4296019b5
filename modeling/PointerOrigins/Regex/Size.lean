import PointerOrigins.Regex.Pattern
import PointerOrigins.Unicode.Utf8
import Std.Data.HashMap

/-!
The room that patterns take as an automaton over bytes.

A state takes 32 bytes, and beyond that 8 for each range of a state with ranges and 4 for each way of a
state with ways to choose from. Patterns fit if the automaton that reads a text forward and the one that
reads it backward both stay within a limit.
-/

namespace PointerOrigins.Regex

open Unicode (Range)

----------------------------------------------------------------------------------------------
-- Room
----------------------------------------------------------------------------------------------

/-- The room that the patterns of a set may take together. -/
def sizeLimit : Nat := 10485760

/-- The way an automaton reads a text. -/
inductive Direction where
  | forward
  | backward
deriving DecidableEq, Repr, Inhabited

/-- The room that has been taken. -/
structure Room where
  states : Nat
  bytes : Nat
deriving DecidableEq, Repr, Inhabited

namespace Room

/-- No room. -/
def empty : Room :=
  ⟨0, 0⟩

/-- Adds states that take some bytes more than states do. -/
def addStates (room : Room) (count extra : Nat) : Option Room :=
  let bytes := room.bytes + 32 * count + extra
  if bytes ≤ sizeLimit then some ⟨room.states + count, bytes⟩ else none

/-- Adds a state that leads on by itself. -/
def addState (room : Room) : Option Room :=
  room.addStates 1 0

/-- Adds a state with ranges. -/
def addRanges (room : Room) (count : Nat) : Option Room :=
  room.addStates 1 (8 * count)

/-- Adds a state with ways to choose from. -/
def addChoice (room : Room) (count : Nat) : Option Room :=
  room.addStates 1 (4 * count)

end Room

/-- Adds the same part so many times. It stops as soon as the limit is passed. -/
def addCopies (add : Room → Option Room) : Nat → Room → Option Room
  | 0, room => some room
  | n + 1, room =>
      match add room with
      | none => none
      | some room => addCopies add n room

----------------------------------------------------------------------------------------------
-- Sets of characters
----------------------------------------------------------------------------------------------

/-- A hash of some numbers. -/
def hashOf (numbers : List Nat) : Nat :=
  (numbers.foldl (fun (h : UInt64) n => (h ^^^ n.toUInt64) * 1099511628211) 14695981039346656037).toNat

/-- The states that have been added and may be used again. There is one place for each hash below the
capacity, and a later state takes the place of an earlier one.
-/
structure Shared where
  capacity : Nat
  places : Std.HashMap Nat (List Nat × Nat)

namespace Shared

/-- Nothing to be used again. -/
def empty (capacity : Nat) : Shared :=
  ⟨capacity, ∅⟩

/-- The state with a key. -/
def find? (shared : Shared) (key : List Nat) : Option Nat :=
  match shared.places[hashOf key % shared.capacity]? with
  | some (known, state) => if known = key then some state else none
  | none => none

/-- Keeps a state under a key. -/
def insert (shared : Shared) (key : List Nat) (state : Nat) : Shared :=
  { shared with places := shared.places.insert (hashOf key % shared.capacity) (key, state) }

end Shared

/-- An automaton for a set of characters that is being built. -/
structure SetRoom where
  room : Room
  shared : Shared

/-- A state that is not finished: the ranges with the states they lead to, latest first, and the range
that leads to the next unfinished state.
-/
structure OpenState where
  arcs : List (Range × Nat)
  last : Range
deriving DecidableEq, Repr, Inhabited

namespace OpenState

/-- A state whose last range leads to a finished state. -/
def finish (state : OpenState) (target : Nat) : List (Range × Nat) :=
  (state.last, target) :: state.arcs

end OpenState

/-- The numbers by which a state is known: for each range its ends and where it leads. -/
def arcKey (arcs : List (Range × Nat)) : List Nat :=
  arcs.reverse.flatMap fun (r, target) => [r.lo, r.hi, target]

/-- Adds a state with ranges, unless one that leads to the same states can be used again. -/
def SetRoom.addArcs (s : SetRoom) (arcs : List (Range × Nat)) : Option (Nat × SetRoom) :=
  let key := arcKey arcs
  match s.shared.find? key with
  | some state => some (state, s)
  | none =>
      (s.room.addRanges arcs.length).map fun room =>
        (s.room.states, ⟨room, s.shared.insert key s.room.states⟩)

/-- Finishes the states of a path, deepest first. The last one leads to the end. -/
def SetRoom.finishPath (s : SetRoom) (target : Nat) : List OpenState → Option (Nat × SetRoom)
  | [] => some (target, s)
  | state :: deeper => do
      let (next, s) ← s.finishPath target deeper
      s.addArcs (state.finish next)

/-- The path of a sequence of byte ranges. -/
def openPath (sequence : List Range) : List OpenState :=
  sequence.map fun r => ⟨[], r⟩

/-- Adds a sequence of byte ranges to a path. What it shares with the path stays open, and the rest of the
path is finished.
-/
def SetRoom.addSequence (s : SetRoom) (target : Nat)
    : List OpenState → List Range → Option (List OpenState × SetRoom)
  | state :: deeper, r :: rest =>
      if state.last = r then
        (s.addSequence target deeper rest).map fun (deeper, s) => (state :: deeper, s)
      else
        (s.finishPath target deeper).map fun (next, s) =>
          (⟨state.finish next, r⟩ :: openPath rest, s)
  | path, sequence => some (path ++ openPath sequence, s)

/-- Adds all sequences of byte ranges, in order, and finishes the path. -/
def SetRoom.addSequences (s : SetRoom) (target : Nat) (path : List OpenState)
    : List (List Range) → Option SetRoom
  | [] => (s.finishPath target path).map Prod.snd
  | sequence :: rest =>
      match s.addSequence target path sequence with
      | none => none
      | some (path, s) => s.addSequences target path rest

/-- Adds the states of a sequence that is read from its end: each leads to the one before it. -/
def SetRoom.addBackward (s : SetRoom) (target : Nat) : List Range → Option SetRoom
  | [] => some s
  | r :: rest =>
      let key := [target, r.lo, r.hi]
      match s.shared.find? key with
      | some state => s.addBackward state rest
      | none =>
          match s.room.addState with
          | none => none
          | some room =>
              SetRoom.addBackward ⟨room, s.shared.insert key s.room.states⟩ s.room.states rest

/-- Adds all sequences, each read from its end. -/
def SetRoom.addAllBackward (s : SetRoom) (target : Nat) : List (List Range) → Option SetRoom
  | [] => some s
  | sequence :: rest =>
      match s.addBackward target sequence with
      | none => none
      | some s => s.addAllBackward target rest

/-- Adds the states of a set. Below 128 a single state takes all ranges. Otherwise, forward, states that
lead on alike are shared; backward there is a way to choose for each sequence of byte ranges.
-/
def CharSet.build (d : Direction) (set : CharSet) (room : Room) : Option Room :=
  if set.isAscii then do
    let room ← room.addState
    room.addRanges set.ranges.length
  else
    let sequences := set.ranges.flatMap Unicode.byteSequences
    match d with
    | .forward => do
        let target := room.states
        let room ← room.addState
        let s ← SetRoom.addSequences ⟨room, .empty 10000⟩ target [] sequences
        some s.room
    | .backward => do
        let room ← room.addChoice sequences.length
        let target := room.states
        let room ← room.addState
        let s ← SetRoom.addAllBackward ⟨room, .empty 1000⟩ target sequences
        some s.room

----------------------------------------------------------------------------------------------
-- Words to choose from
----------------------------------------------------------------------------------------------

/-- Puts a word into the latest of some batches; an empty word starts another one. Batches and words are
latest first. An empty word before all others counts once.
-/
def addWord (batches : List (List (List Nat))) : List Nat → List (List (List Nat))
  | [] => if 1 < batches.length ∧ batches.all List.isEmpty then batches else [] :: batches
  | word =>
      match batches with
      | [] => [[word]]
      | batch :: earlier => (word :: batch) :: earlier

/-- Words by their first byte: for each the rests, in order. -/
def branches (words : List (List Nat)) : List (List (List Nat)) :=
  let firsts := (words.filterMap List.head?).eraseDups
  firsts.map fun first => (words.filter fun word => word.head? = some first).map List.tail

/-- Adds the states of a tree of words, which has a way for each byte that may come next. The bound is the
length of the longest word.
-/
def addTree : Nat → List (List Nat) → Room → Option Room
  | 0, _, room => some room
  | bound + 1, words, room => do
      let batches := ((words.foldl addWord [[]]).map List.reverse).reverse
      let filled := batches.filter fun batch => !batch.isEmpty
      let room ← filled.foldlM (fun (room : Room) batch => do
        let next := branches batch
        let room ← next.foldlM (fun (room : Room) (rests : List (List Nat)) =>
          if rests.all List.isEmpty then some room else addTree bound rests room) room
        if next.length = 1 then room.addState else room.addRanges next.length) room
      room.addChoice (filled.length + (batches.length - 1))

/-- Adds the states of words to choose from. -/
def addWords (words : List (List Nat)) (room : Room) : Option Room := do
  let room ← room.addState
  addTree ((words.map List.length).foldl max 0) words room

----------------------------------------------------------------------------------------------
-- Patterns
----------------------------------------------------------------------------------------------

/-- The bytes of some characters. -/
def bytesOf (cs : List Char) : List Nat :=
  cs.flatMap fun c => Unicode.utf8Bytes c.toNat

/-- The bytes of a literal, in the order in which they are read. -/
def Pattern.word? (d : Direction) : Pattern → Option (List Nat)
  | .literal cs => some (match d with | .forward => bytesOf cs | .backward => (bytesOf cs).reverse)
  | _ => none

mutual

/-- Adds the states of a pattern. -/
def Pattern.build (d : Direction) : Pattern → Room → Option Room
  | .empty, room => room.addState
  | .literal cs, room => room.addStates (bytesOf cs).length 0
  | .set chars, room => chars.build d room
  | .look _, room => room.addState
  | .seq ps, room => Pattern.buildSeq d ps room
  | .alt ps, room =>
      match ps.mapM (Pattern.word? d) with
      | some words => addWords words room
      | none => Pattern.buildAlt d ps room
  | .repeat least most p, room =>
      match least, most with
      | 0, some 1 => do
          let room ← room.addChoice 2
          let room ← p.build d room
          room.addState
      | 0, none =>
          if (p.minLength?).any (0 < ·) then do
            let room ← room.addChoice 2
            p.build d room
          else do
            let room ← p.build d room
            let room ← room.addChoice 2
            let room ← room.addChoice 2
            room.addState
      | least + 1, none => do
          let room ← addCopies (fun room => p.build d room) (least + 1) room
          room.addChoice 2
      | least, some most => do
          let room ←
            if least = 0 then room.addState else addCopies (fun room => p.build d room) least room
          if least = most then some room
          else
            let room ← room.addState
            addCopies (fun room => do
              let room ← room.addChoice 2
              p.build d room) (most - least) room
  | .group p, room => p.build d room

/-- Adds the states of patterns in a row, in the order in which they are read. -/
def Pattern.buildSeq (d : Direction) : List Pattern → Room → Option Room
  | [], room => some room
  | p :: rest, room =>
      match d with
      | .forward => (p.build d room).bind (Pattern.buildSeq d rest)
      | .backward => (Pattern.buildSeq d rest room).bind (p.build d)

/-- Adds the states of patterns to choose from. The choice stands behind the first two. -/
def Pattern.buildAlt (d : Direction) : List Pattern → Room → Option Room
  | [], room => room.addState
  | [p], room => p.build d room
  | p :: q :: rest, room => do
      let room ← p.build d room
      let room ← q.build d room
      let room ← room.addChoice (rest.length + 2)
      let room ← room.addState
      Pattern.buildAll d rest room

/-- Adds the states of patterns one after the other. -/
def Pattern.buildAll (d : Direction) : List Pattern → Room → Option Room
  | [], room => some room
  | p :: rest, room => (p.build d room).bind (Pattern.buildAll d rest)

end

----------------------------------------------------------------------------------------------
-- Sets of patterns
----------------------------------------------------------------------------------------------

/-- Whether all matches lie at the side of the text from which it is read. -/
def anchored (d : Direction) (ps : List Pattern) : Bool :=
  match d with
  | .forward => ps.all Pattern.startsText
  | .backward => ps.all Pattern.endsText

/-- Adds the states of a pattern of a set: those of the pattern, and one that tells of the match. -/
def addMember (d : Direction) (p : Pattern) (room : Room) : Option Room := do
  let room ← p.build d room
  room.addState

/-- The room of the patterns of a set. If a match may lie anywhere, there is a loop over any byte in
front.
-/
def room? (d : Direction) (ps : List Pattern) : Option Room := do
  let room ← if anchored d ps then Room.empty.addState else Room.empty.addStates 3 16
  match ps with
  | [] => room.addState
  | [p] => addMember d p room
  | p :: q :: rest =>
      let room ← addMember d p room
      let room ← addMember d q room
      let room ← room.addChoice (rest.length + 2)
      let room ← room.addState
      rest.foldlM (fun room p => addMember d p room) room

/-- Whether the patterns of a set stay within the limit. -/
def fits (d : Direction) (ps : List Pattern) : Bool :=
  (room? d ps).isSome

end PointerOrigins.Regex
