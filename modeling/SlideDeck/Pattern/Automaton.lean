import SlideDeck.Pattern.NormalForm
import SlideDeck.Text.ByteRange
import Std.Data.HashMap

/-!
# How much memory automata take

A pattern is compiled to two automata over bytes, one that reads forward and one that reads
backward, and neither may take more than a fixed amount of memory.  What counts is the number of
their states and what some of them hold beside their place; the automata themselves are not needed.

* `Size` is how much has been built, `Builder` an action that builds and stops at the limit.
* `build` builds a form, `automaton` a whole automaton.
* `fits` says whether both automata of a form stay within the limit.

The states are numbered in the order in which they are built.  Automata for sets of characters
share states, as far as two tables of fixed size remember them, and the slots of these tables
depend on the numbers.
-/

set_option autoImplicit false

namespace SlideDeck.Automaton

/-! ## Building -/

/-- The direction in which an automaton reads. -/
inductive Direction where
  | forward
  | backward
  deriving DecidableEq, Repr

/-- How much has been built. -/
structure Size where
  states : Nat
  bytes : Nat
  deriving DecidableEq, Repr

/-- The memory that an automaton may take, in bytes. -/
def maxBytes : Nat := 10485760

/-- An action that builds a part of an automaton, unless it grows too large. -/
abbrev Builder (α : Type) : Type := StateT Size Option α

/-- Takes up some more memory, for so many states and what they hold. -/
def grow (states bytes : Nat) : Builder Unit := fun size =>
  if maxBytes < size.bytes + bytes then none
  else some ((), ⟨size.states + states, size.bytes + bytes⟩)

/-- The memory of a state without what it holds. -/
def stateBytes : Nat := 32

/-- The memory of a reference to a state that stands in a list. -/
def referenceBytes : Nat := 4

/-- The memory of a transition that stands in a list. -/
def transitionBytes : Nat := 8

/-- Builds a state that holds so many bytes more, and gives its number. -/
def addState (held : Nat) : Builder Nat := do
  let size ← get
  grow 1 (stateBytes + held)
  return size.states

/-- Builds several states that hold nothing. -/
def addStates (n : Nat) : Builder Unit := grow n (n * stateBytes)

/-- How a part of an automaton ends: in a state that branches, which holds a reference to each
state that it leads to, or in one that leads to a single state. -/
inductive Ending where
  | branching
  | plain
  deriving DecidableEq, Repr

/-- Takes up the memory for leading on from the end of a part. -/
def leadOn : Ending → Builder Unit
  | .branching => grow 0 referenceBytes
  | .plain => return

/-- Takes up the memory for so many references in a state that branches. -/
def refer (n : Nat) : Builder Unit := grow 0 (n * referenceBytes)

/-! ## Sets of characters -/

/-- The memory of a state with so many transitions. -/
def transitionsBytes (n : Nat) : Nat := n * transitionBytes

/-- A step of the hash function of the tables. -/
def mix (hash value : UInt64) : UInt64 := (hash ^^^ value) * 1099511628211

/-- What the hash function starts from. -/
def mixStart : UInt64 := 14695981039346656037

/-- A transition: the bytes that it takes, and the number of the state it leads to. -/
structure Transition where
  bytes : ByteRange
  target : Nat
  deriving DecidableEq, Repr

/-- What is mixed into a hash value for a transition. -/
def Transition.mixInto (hash : UInt64) (t : Transition) : UInt64 :=
  mix (mix (mix hash t.bytes.first.toUInt64) t.bytes.last.toUInt64) t.target.toUInt64

/-- A table of built states: for a slot the last state that was put there, by its transitions. -/
abbrev StateTable : Type := Std.HashMap Nat (List Transition × Nat)

/-- An action that builds states and may share those in a table. -/
abbrev SharingBuilder (α : Type) : Type := StateT StateTable (StateT Size Option) α

/-- A state with these transitions, in a table with so many slots: one that is there, or one that
`new` builds. -/
def sharedState (slots : Nat) (key : List Transition) (new : Builder Nat) :
    SharingBuilder Nat := do
  let table ← get
  let slot := (key.foldl Transition.mixInto mixStart).toNat % slots
  match table.get? slot with
  | some (known, id) => if known = key then return id
  | none => pure ()
  let id ← new
  set (table.insert slot (key, id))
  return id

/-- Sequences of byte ranges with neighbours grouped that begin alike: the common first range and
what follows it in each. -/
def groupByFirst : List (List ByteRange) → List (ByteRange × List (List ByteRange))
  | [] => []
  | [] :: rest => groupByFirst rest
  | (b :: tail) :: rest =>
    match groupByFirst rest with
    | [] => [(b, [tail])]
    | (b', tails) :: groups =>
      if b = b' then (b, tail :: tails) :: groups else (b, [tail]) :: (b', tails) :: groups

/-- Builds the states that read one of several sequences of at most so many bytes and then lead to
`target`.  States with the same transitions are shared. -/
def buildTree (target : Nat) : Nat → List (List ByteRange) → SharingBuilder Nat
  | 0, _ => return target
  | depth + 1, sequences => do
    if sequences.all List.isEmpty then return target
    let transitions ← (groupByFirst sequences).mapM fun (b, tails) => do
      return Transition.mk b (← buildTree target depth tails)
    sharedState 10000 transitions (addState (transitionsBytes transitions.length))

/-- Builds the states that read a sequence from its end and then lead to `target`.  A state is
shared if it reads the same bytes and leads to the same state. -/
def buildReversed (target : Nat) : List ByteRange → SharingBuilder Nat
  | [] => return target
  | b :: rest => do
    let id ← sharedState 1000 [⟨b, target⟩] (addState 0)
    buildReversed id rest

/-- The sequences of byte ranges of a set. -/
def setSequences (s : CharSet) : List (List ByteRange) :=
  s.intervals.flatMap fun (first, last) => ByteRange.sequences first last

/-- Builds a part that reads one character of a set. -/
def buildSet (direction : Direction) (s : CharSet) : Builder Ending := do
  if s.isAscii then
    addStates 1
    let _ ← addState (transitionsBytes s.intervals.length)
    return .plain
  match direction with
  | .forward =>
    let target ← addState 0
    let _ ← (buildTree target 4 (setSequences s)).run ∅
    return .plain
  | .backward =>
    addStates 1
    let target ← addState 0
    let _ ← ((setSequences s).forM fun sequence => do
      let _ ← buildReversed target sequence
      refer 1).run ∅
    return .plain

/-! ## Choices between fixed texts -/

/-- The byte sequences at a node of a tree that shares beginnings.  A sequence that ends there
comes between those that go on before it in order and those that go on after it, so these are kept
apart: `closed` says how many sequences have ended, `chunks` what goes on before, between and after
them, the latest first. -/
structure Fork where
  closed : Nat
  chunks : List (List Bytes)

/-- The fork with one more sequence.  The end of a sequence does not count if another has ended
before and none goes on so far. -/
def Fork.add (f : Fork) : Bytes → Fork
  | [] =>
    if 0 < f.closed ∧ f.chunks.all List.isEmpty then f
    else ⟨f.closed + 1, [] :: f.chunks⟩
  | bytes =>
    match f.chunks with
    | [] => ⟨f.closed, [[bytes]]⟩
    | chunk :: chunks => ⟨f.closed, (bytes :: chunk) :: chunks⟩

/-- The fork of some sequences. -/
def Fork.ofSequences (sequences : List Bytes) : Fork := sequences.foldl add ⟨0, [[]]⟩

/-- What follows each first byte. -/
def tailsByFirst (chunk : List Bytes) : List (UInt8 × List Bytes) :=
  chunk.foldl add []
where
  /-- The groups with one more sequence. -/
  add (groups : List (UInt8 × List Bytes)) : Bytes → List (UInt8 × List Bytes)
    | [] => groups
    | b :: tail => insert b tail groups
  /-- The groups with a sequence that starts with `b`, in front of its group. -/
  insert (b : UInt8) (tail : Bytes) : List (UInt8 × List Bytes) → List (UInt8 × List Bytes)
    | [] => [(b, [tail])]
    | (b', tails) :: groups =>
      if b = b' then (b', tail :: tails) :: groups else (b', tails) :: insert b tail groups

/-- Builds the states below a node that read one of several byte sequences, none of which is longer
than `depth`: for each chunk one state, and one that branches to them and, between any two of them,
to the end. -/
def buildFork : (depth : Nat) → List Bytes → Builder Unit
  | 0, _ => return
  | depth + 1, sequences => do
    let fork := Fork.ofSequences sequences
    let chunks := (fork.chunks.filter fun c => !c.isEmpty).map tailsByFirst
    chunks.forM fun groups => do
      groups.forM fun (_, tails) => do
        if tails.all List.isEmpty then return
        buildFork depth tails
      grow 1 (stateBytes + (if groups.length = 1 then 0 else transitionsBytes groups.length))
    grow 1 (stateBytes + (chunks.length + fork.closed) * referenceBytes)

/-- Builds a choice between fixed texts. -/
def buildLiterals (direction : Direction) (texts : List Text) : Builder Ending := do
  let sequences := texts.map fun t =>
    match direction with
    | .forward => Text.toBytes t
    | .backward => (Text.toBytes t).reverse
  addStates 1
  buildFork (((sequences.map List.length).foldl max 0) + 1) sequences
  return .plain

/-! ## Repetitions -/

/-- Builds a part `n` times more, after one that ends as said. -/
def buildAgain (one : Builder Ending) : (n : Nat) → Ending → Builder Ending
  | 0, ending => return ending
  | n + 1, ending => do
    let next ← one
    leadOn ending
    buildAgain one n next

/-- Builds a part exactly `n` times. -/
def buildExactly (one : Builder Ending) : (n : Nat) → Builder Ending
  | 0 => do
    addStates 1
    return .plain
  | n + 1 => do
    let ending ← one
    buildAgain one n ending

/-- Builds a part up to `n` times more, after one that ends as said; from each place a state that
branches can lead to the common end. -/
def buildUpTo (one : Builder Ending) : (n : Nat) → Ending → Builder Ending
  | 0, ending => do
    leadOn ending
    return .plain
  | n + 1, ending => do
    addStates 1
    let next ← one
    leadOn ending
    refer 2
    buildUpTo one n next

/-- Builds a part any number of times.  If the part takes some text in any case, one state that
branches is enough. -/
def buildStar (one : Builder Ending) (takesText : Bool) : Builder Ending := do
  if takesText then
    addStates 1
    let ending ← one
    refer 1
    leadOn ending
    return .branching
  else
    let ending ← one
    addStates 3
    leadOn ending
    refer 4
    return .plain

/-- Builds a part at least once. -/
def buildPlus (one : Builder Ending) : Builder Ending := do
  let ending ← one
  addStates 1
  leadOn ending
  refer 1
  return .branching

/-- Builds a repetition of a part. -/
def buildTimes (one : Builder Ending) (takesText : Bool) (min : Nat) :
    (max : Option Nat) → Builder Ending
  | none =>
    match min with
    | 0 => buildStar one takesText
    | 1 => buildPlus one
    | n + 2 => do
      let ending ← buildExactly one (n + 1)
      let last ← one
      leadOn ending
      addStates 1
      leadOn last
      refer 1
      return .branching
  | some max => do
    if min = 0 ∧ max = 1 then
      addStates 1
      let ending ← one
      addStates 1
      refer 2
      leadOn ending
      return .plain
    let ending ← buildExactly one min
    if min = max then return ending
    addStates 1
    buildUpTo one (max - min) ending

/-! ## Forms -/

/-- The text of a form that is a fixed text. -/
def literal? : NormalForm → Option Text
  | .literal t => some t
  | _ => none

mutual

/-- Builds a form. -/
def build (direction : Direction) : NormalForm → Builder Ending
  | .empty => do
    addStates 1
    return .plain
  | .literal t => do
    addStates (Text.utf8Size t)
    return .plain
  | .chars s => buildSet direction s
  | .anchor _ => do
    addStates 1
    return .plain
  | .capture a =>
    match direction with
    | .backward => build direction a
    | .forward => do
      addStates 1
      let ending ← build direction a
      addStates 1
      leadOn ending
      return .plain
  | .times a min max _ =>
    buildTimes (build direction a) (a.minLength.any (0 < ·)) min max
  | .seq parts =>
    match direction with
    | .forward => buildForward parts
    | .backward => buildBackward parts
  | .alt branches =>
    match branches.mapM literal? with
    | some texts => buildLiterals direction texts
    | none => buildFirst direction branches

/-- Builds parts in their order. -/
def buildForward : List NormalForm → Builder Ending
  | [] => return .plain
  | [a] => build .forward a
  | a :: parts => do
    let ending ← build .forward a
    leadOn ending
    buildForward parts

/-- Builds parts, the last one first. -/
def buildBackward : List NormalForm → Builder Ending
  | [] => return .plain
  | [a] => build .backward a
  | a :: parts => do
    let ending ← buildBackward parts
    leadOn ending
    build .backward a

/-- Builds the first branch of a choice and then the others. -/
def buildFirst (direction : Direction) : List NormalForm → Builder Ending
  | [] => return .plain
  | a :: branches => do
    let ending ← build direction a
    buildSecond direction ending branches

/-- Builds the second branch of a choice, the state that branches, the common end, and then the
other branches. -/
def buildSecond (direction : Direction) (first : Ending) : List NormalForm → Builder Ending
  | [] => return first
  | a :: branches => do
    let ending ← build direction a
    addStates 2
    refer 2
    leadOn first
    leadOn ending
    buildOthers direction branches

/-- Builds the other branches of a choice. -/
def buildOthers (direction : Direction) : List NormalForm → Builder Ending
  | [] => return .plain
  | a :: branches => do
    let ending ← build direction a
    refer 1
    leadOn ending
    buildOthers direction branches

end

/-! ## Whole automata -/

/-- Builds what passes over the text in front of a match, unless every match is tied to the end at
which reading starts. -/
def buildSearch (tied : Bool) : Builder Unit := do
  if tied then addStates 1
  else
    addStates 2
    let _ ← addState transitionBytes
    refer 2

/-- Builds the automaton of a form.  The forward one records where the match starts and ends. -/
def automaton (direction : Direction) (a : NormalForm) : Builder Unit := do
  match direction with
  | .forward =>
    buildSearch a.startsAtTextStart
    let _ ← build .forward (.capture a)
    addStates 1
  | .backward =>
    buildSearch a.endsAtTextEnd
    let ending ← build .backward a
    addStates 1
    leadOn ending

/-- Whether a form is a choice between so many fixed texts that it is searched for without an
automaton. -/
def isManyLiterals : NormalForm → Bool
  | .alt branches => 3000 ≤ branches.length && branches.all fun a => (literal? a).isSome
  | _ => false

/-- Whether the automata of a form do not take too much memory. -/
def fits (a : NormalForm) : Bool :=
  isManyLiterals a
    || (((automaton .forward a).run ⟨0, 0⟩).isSome && ((automaton .backward a).run ⟨0, 0⟩).isSome)

end SlideDeck.Automaton
