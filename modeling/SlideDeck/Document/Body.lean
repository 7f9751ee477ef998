import SlideDeck.Document.Line

/-!
# Bodies of blocks

* `Body.read` splits off the lines before the first one that ends a block.
* `Body.read_append` says that nothing is lost, `Body.read_eq_closed_iff` what a body with an end
  is.
* `collectUntil` is the same reading from a given index.
-/

set_option autoImplicit false

namespace SlideDeck

/-- The lines of a block up to the line that ends it, that line, and what follows it. -/
structure Body where
  /-- The lines before the end, unchanged. -/
  lines : Document
  /-- The line that ends the block; without one the body runs to the end of the document. -/
  closing : Option Line
  /-- The lines after the end. -/
  rest : Document
  deriving DecidableEq, Repr

namespace Body

/-- Reads up to the first line that satisfies `isEnd`. -/
def read (isEnd : Line → Bool) (d : Document) : Body where
  lines := d.takeWhile fun l => !isEnd l
  closing := d.find? isEnd
  rest := (d.dropWhile fun l => !isEnd l).tail

/-- Whether the line that ends the body is there. -/
def closed (b : Body) : Bool := b.closing.isSome

/-- How many lines the body takes, the one that ends it included. -/
def span (b : Body) : Nat := b.lines.length + b.closing.toList.length

@[simp] theorem read_nil (isEnd : Line → Bool) : read isEnd [] = ⟨[], none, []⟩ := rfl

theorem read_cons (isEnd : Line → Bool) (l : Line) (d : Document) :
    read isEnd (l :: d) =
      if isEnd l then ⟨[], some l, d⟩
      else { read isEnd d with lines := l :: (read isEnd d).lines } := by
  by_cases h : isEnd l = true <;> simp [read, h]

/-- A body, the line that ends it and what follows make up the document. -/
theorem read_append (isEnd : Line → Bool) (d : Document) :
    (read isEnd d).lines ++ ((read isEnd d).closing.toList ++ (read isEnd d).rest) = d := by
  induction d with
  | nil => rfl
  | cons l d ih =>
    rw [read_cons]
    by_cases h : isEnd l = true
    · simp [h]
    · simpa [h] using ih

/-- A body with an end is what lies before the first line that ends it. -/
theorem read_eq_closed_iff (isEnd : Line → Bool) (d lines rest : Document) (l : Line) :
    read isEnd d = ⟨lines, some l, rest⟩ ↔
      d = lines ++ l :: rest ∧ isEnd l = true ∧ ∀ m ∈ lines, isEnd m = false := by
  induction d generalizing lines with
  | nil => simp
  | cons k d ih =>
    rw [read_cons]
    by_cases h : isEnd k = true
    · rw [if_pos h]
      constructor
      · intro heq
        obtain ⟨rfl, hl, rfl⟩ := (Body.mk.injEq ..).mp heq
        obtain rfl := Option.some.inj hl
        exact ⟨rfl, h, fun m hm => absurd hm (List.not_mem_nil)⟩
      · rintro ⟨heq, -, hlines⟩
        cases lines with
        | nil =>
          obtain ⟨rfl, rfl⟩ := List.cons.inj heq
          rfl
        | cons m lines =>
          obtain ⟨rfl, -⟩ := List.cons.inj heq
          have := hlines k (List.mem_cons_self ..)
          rw [h] at this
          exact absurd this (by decide)
    · rw [if_neg h]
      constructor
      · intro heq
        obtain ⟨rfl, hl, hr⟩ := (Body.mk.injEq ..).mp heq
        obtain ⟨hd, hend, hall⟩ := (ih (read isEnd d).lines).mp
          ((Body.mk.injEq ..).mpr ⟨rfl, hl, hr⟩)
        refine ⟨by rw [List.cons_append, ← hd], hend, fun m hm => ?_⟩
        rcases List.mem_cons.1 hm with rfl | hm
        · exact Bool.eq_false_iff.2 h
        · exact hall m hm
      · rintro ⟨heq, hend, hall⟩
        cases lines with
        | nil =>
          obtain ⟨rfl, rfl⟩ := List.cons.inj heq
          exact absurd hend h
        | cons m lines =>
          obtain ⟨rfl, hd⟩ := List.cons.inj heq
          have hread := (ih lines).mpr
            ⟨hd, hend, fun n hn => hall n (List.mem_cons_of_mem k hn)⟩
          rw [hread]

end Body

/-! ## Reading from an index -/

/-- The result of collecting lines from an index. -/
structure Collected where
  /-- The lines before the end, unchanged. -/
  lines : Document
  /-- The index of the first line after the end, or the number of lines. -/
  next : Nat
  /-- Whether the end was found. -/
  terminated : Bool
  deriving DecidableEq, Repr

/-- Collects the lines from index `start` up to the first one that satisfies `isEnd`. -/
def collectUntil (d : Document) (start : Nat) (isEnd : Line → Bool) : Collected :=
  let body := Body.read isEnd (d.drop start)
  { lines := body.lines
    next := if body.closed then start + body.span else d.length
    terminated := body.closed }

end SlideDeck
