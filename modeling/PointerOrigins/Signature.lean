import PointerOrigins.Json
import PointerOrigins.Regex.Match
import PointerOrigins.Regex.Meaning

/-!
Signatures: what a user knows about external functions.

A signatures text is a JSON object from regular expressions over symbols to lists of signatures, such
as `{"^xmalloc$": [{"return-alloc": {"type": "heap"}}]}`.
-/

namespace PointerOrigins

----------------------------------------------------------------------------------------------
-- Signatures
----------------------------------------------------------------------------------------------

/-- Where a returned pointer comes from. -/
inductive AllocType where
  | heap
  | stack
  /-- Nothing is known about it. -/
  | top
deriving DecidableEq, Repr, Inhabited

namespace AllocType

/-- The name of a type in a signatures text. -/
def key : AllocType → String
  | .heap => "heap"
  | .stack => "stack"
  | .top => "top"

/-- The name of a type in a report text. -/
def text : AllocType → String
  | .heap => "Heap"
  | .stack => "Stack"
  | .top => "Top"

/-- All types. -/
def all : List AllocType :=
  [.heap, .stack, .top]

/-- The type with a name. -/
def ofKey? (key : String) : Option AllocType :=
  all.find? fun t => t.key = key

end AllocType

/-- What a signature says about a function. -/
inductive Signature where
  | returnAlloc (type : AllocType)
deriving DecidableEq, Repr, Inhabited

/-- The signatures of each pattern. -/
structure SignatureMap where
  entries : List (String × List Signature)
  distinct : (entries.map Prod.fst).Nodup
deriving Repr

namespace SignatureMap

/-- No patterns. -/
def empty : SignatureMap :=
  ⟨[], List.nodup_nil⟩

instance : Inhabited SignatureMap :=
  ⟨empty⟩

/-- Inserts a pattern with its signatures; those that it has are replaced. -/
def insert (m : SignatureMap) (source : String) (signatures : List Signature) : SignatureMap where
  entries := m.entries.filter (fun entry => entry.1 != source) ++ [(source, signatures)]
  distinct := by
    rw [List.map_append, List.nodup_append]
    refine ⟨m.distinct.sublist (List.filter_sublist.map _), List.pairwise_singleton _ _, ?_⟩
    intro key isOther own isOwn same
    obtain ⟨entry, kept, isKey⟩ := List.mem_map.1 isOther
    have isSource : entry.1 = source := isKey.trans (same.trans (List.mem_singleton.1 isOwn))
    exact bne_iff_ne.1 (List.mem_filter.1 kept).2 isSource

/-- The patterns. -/
def sources (m : SignatureMap) : List String :=
  m.entries.map Prod.fst

/-- The signatures of a pattern. -/
def get? (m : SignatureMap) (source : String) : Option (List Signature) :=
  m.entries.lookup source

end SignatureMap

/-- A way to read patterns and to match symbols against them. -/
structure PatternEngine where
  Pattern : Type
  parse? : String → Option Pattern
  /-- Whether patterns can be used together. -/
  fits : List Pattern → Bool
  accepts : Pattern → String → Bool

/-- Regular expressions. -/
def PatternEngine.regex : PatternEngine where
  Pattern := Regex.Pattern
  parse? := Regex.Pattern.parse?
  fits := Regex.Pattern.fitTogether
  accepts := Regex.Pattern.matches

/-- Signatures of functions by their symbols. The patterns are read in the order of their texts, and one that
matches is known by its position.
-/
structure Signatures where
  map : SignatureMap
  /-- The patterns in order. -/
  sources : List String
  /-- Which symbols they match, in the same order. -/
  set : List (String → Bool)
deriving Inhabited

/-- Why signatures cannot be had. -/
inductive SignatureError where
  | unreadable
  | badJson
  | badPattern
deriving DecidableEq, Repr, Inhabited

/-- The text of an error, without details. -/
def SignatureError.message : SignatureError → String
  | .unreadable => "Couldn't read signatures file"
  | .badJson => "Couldn't parse signatures"
  | .badPattern => "Bad regular expression in signatures"

namespace Signatures

/-- No signatures. -/
def empty : Signatures :=
  ⟨.empty, [], []⟩

/-- Signatures of some patterns, all of which are read. -/
def ofMapBy (engine : PatternEngine) (map : SignatureMap) : Except SignatureError Signatures :=
  let sources := map.sources.mergeSort (· ≤ ·)
  match sources.mapM engine.parse? with
  | none => .error .badPattern
  | some patterns =>
      if engine.fits patterns then .ok ⟨map, sources, patterns.map engine.accepts⟩
      else .error .badPattern

/-- Signatures of some regular expressions. -/
def ofMap (map : SignatureMap) : Except SignatureError Signatures :=
  ofMapBy .regex map

/-- The number of patterns. -/
def size (s : Signatures) : Nat :=
  s.sources.length

/-- Whether there is no pattern. -/
def isEmpty (s : Signatures) : Bool :=
  s.sources.isEmpty

/-- The positions of the patterns that match a symbol, in increasing order. -/
def matching (s : Signatures) (symbol : String) : List Nat :=
  (s.set.zipIdx.filter fun entry => entry.1 symbol).map Prod.snd

/-- The signatures of the pattern at a position. -/
def signaturesAt? (s : Signatures) (position : Nat) : Option (List Signature) :=
  s.sources[position]?.bind s.map.get?

/-- The signatures of all patterns that match a symbol, if there is any such pattern. -/
def find? (s : Signatures) (symbol : String) : Option (List Signature) :=
  match s.matching symbol with
  | [] => none
  | positions => some (positions.flatMap fun position => (s.signaturesAt? position).getD [])

/-- What a list of signatures says about the returned pointer, behind others that say `result`: a `top` wins
at once, and otherwise the last.
-/
def combine (result : Option AllocType) : List Signature → Option AllocType
  | [] => result
  | .returnAlloc .top :: _ => some .top
  | .returnAlloc type :: rest => combine (some type) rest

/-- What the signatures say about the pointer that a function returns. -/
def returnAlloc? (s : Signatures) (symbol : String) : Option AllocType :=
  (s.find? symbol).bind (combine none)

end Signatures

----------------------------------------------------------------------------------------------
-- Reading
----------------------------------------------------------------------------------------------

namespace AllocType

/-- Reads a type: its name, or an object with its name for the only key and null for the value. -/
def ofJson? : Json → Option AllocType
  | .string (some key) => ofKey? key
  | .object [(some key, .null)] => ofKey? key
  | _ => none

end AllocType

namespace Signature

/-- The fields of an object; every key needs a value. -/
def fields? (members : List (Option String × Json)) : Option (List (String × Json)) :=
  members.mapM fun (key, value) => key.map fun key => (key, value)

/-- Reads the body of a signature: an object in which `type` occurs once, or a list of one type. -/
def bodyOfJson? : Json → Option AllocType
  | .array [type] => AllocType.ofJson? type
  | .object members => do
      let fields ← fields? members
      match fields.filter fun field => field.1 = "type" with
      | [(_, type)] => AllocType.ofJson? type
      | _ => none
  | _ => none

/-- Reads a signature: an object with a single key, which says what kind of signature it is. -/
def ofJson? : Json → Option Signature
  | .object [(some "return-alloc", body)] => (bodyOfJson? body).map .returnAlloc
  | _ => none

/-- Reads a list of signatures. -/
def listOfJson? : Json → Option (List Signature)
  | .array elements => elements.mapM ofJson?
  | _ => none

end Signature

namespace Signatures

/-- Reads the patterns and their signatures. Every list is checked, also that of a pattern which
occurs again later.
-/
def mapOfJson? : Json → Option SignatureMap
  | .object members => do
      let fields ← Signature.fields? members
      let entries ← fields.mapM fun (key, value) =>
        (Signature.listOfJson? value).map fun signatures => (key, signatures)
      some (entries.foldl (fun map (key, signatures) => map.insert key signatures) .empty)
  | _ => none

/-- Reads a signatures text. -/
def parse (text : String) : Except SignatureError Signatures :=
  match (Json.parse? text).bind mapOfJson? with
  | none => .error .badJson
  | some map => ofMap map

end Signatures

end PointerOrigins
