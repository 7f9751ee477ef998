import SlideDeck.Proofs.Document.Cursor
import SlideDeck.Proofs.Document.OpenBlock

/-!
# Collecting the lines of a block

A scan by index that has come to a block collects its lines and goes on at the index that it is
given back.  It loses nothing and repeats nothing because the document from the first line of the
block on falls into three parts: the lines that are collected, the one that ends the block, and the
lines from that index on.  Without a line that ends the block all of it is collected.

* `Collected.Partitions` — the parts, and which of the two cases it is.
* `collectUntil_of_closed` and `collectUntil_of_open` — what is collected in either case.
* `Collected.partitions_collectUntil` and `Collected.Partitions.eq` — what is collected are these
  parts, and nothing else is.
* `Collected.collectUntil_partitions` — the same of the lines that are collected by index.
-/

set_option autoImplicit false

namespace SlideDeck

section

variable {isEnd : Line → Bool} {d : Document} {start : Nat}

theorem Document.exists_mem_drop_iff :
    (∃ l ∈ d.drop start, isEnd l = true) ↔ ∃ i, start ≤ i ∧ ∃ l ∈ d[i]?, isEnd l = true := by
  constructor
  · rintro ⟨l, hl, hend⟩
    obtain ⟨j, hj⟩ := List.mem_iff_getElem?.1 hl
    rw [List.getElem?_drop] at hj
    exact ⟨start + j, Nat.le_add_right start j, l, hj, hend⟩
  · rintro ⟨i, hi, l, hl, hend⟩
    refine ⟨l, List.mem_iff_getElem?.2 ⟨i - start, ?_⟩, hend⟩
    rw [List.getElem?_drop, Nat.add_sub_cancel' hi]
    exact hl

/-! ## The two cases -/

theorem collectUntil_of_closed {lines rest : Document} {l : Line}
    (hd : d.drop start = lines ++ l :: rest) (hl : isEnd l = true)
    (hlines : ∀ m ∈ lines, isEnd m = false) :
    collectUntil d start isEnd = ⟨lines, start + (lines.length + 1), true⟩ := by
  rw [collectUntil, hd, Body.read_append_cons hlines hl]
  rfl

theorem collectUntil_of_open (h : ∀ l ∈ d.drop start, isEnd l = false) :
    collectUntil d start isEnd = ⟨d.drop start, d.length, false⟩ := by
  have hopen : (Body.read isEnd (d.drop start)).closed = false := by
    rw [Body.closed, Body.read, List.find?_eq_none.2 fun l hl => Bool.eq_false_iff.1 (h l hl)]
    rfl
  rw [collectUntil, Body.read_of_open hopen]
  rfl

end

namespace Collected

/-- The lines that are collected from index `start` on, the line that ends them, and the lines that
are left for later: the parts of the document from `start` on, of which there are none if `start` is
beyond its end. -/
structure Partitions (isEnd : Line → Bool) (d : Document) (start : Nat) (c : Collected) : Prop where
  not_isEnd : ∀ l ∈ c.lines, isEnd l = false
  of_terminated : c.terminated = true → start < c.next ∧ c.next ≤ d.length
    ∧ ∃ l, isEnd l = true ∧ d.drop start = c.lines ++ l :: d.drop c.next
  of_not_terminated : c.terminated = false → c.next = d.length ∧ c.lines = d.drop start
  terminated_iff : c.terminated = true ↔ ∃ i, start ≤ i ∧ ∃ l ∈ d[i]?, isEnd l = true

variable (isEnd : Line → Bool) (d : Document) (start : Nat)

theorem partitions_collectUntil : (collectUntil d start isEnd).Partitions isEnd d start := by
  by_cases hend : ∃ l ∈ d.drop start, isEnd l = true
  · obtain ⟨lines, l, rest, hd, hl, hlines⟩ := Body.exists_read_closed hend
    have hrest : d.drop (start + (lines.length + 1)) = rest := by
      rw [← List.drop_drop, hd, List.append_cons, List.drop_left']
      exact List.length_append
    have hlength : d.length - start = lines.length + (rest.length + 1) := by
      rw [← List.length_drop, hd, List.length_append, List.length_cons]
    have hstart : start < start + (lines.length + 1) := by omega
    have hnext : start + (lines.length + 1) ≤ d.length := by omega
    rw [collectUntil_of_closed hd hl hlines]
    exact
      { not_isEnd := hlines
        of_terminated := fun _ => ⟨hstart, hnext, l, hl, by rw [hd, hrest]⟩
        of_not_terminated := nofun
        terminated_iff := iff_of_true rfl (Document.exists_mem_drop_iff.1 hend) }
  · have hopen : ∀ l ∈ d.drop start, isEnd l = false := fun l hl =>
      Bool.eq_false_iff.2 fun hl' => hend ⟨l, hl, hl'⟩
    rw [collectUntil_of_open hopen]
    exact
      { not_isEnd := hopen
        of_terminated := nofun
        of_not_terminated := fun _ => ⟨rfl, rfl⟩
        terminated_iff := iff_of_false nofun (mt Document.exists_mem_drop_iff.2 hend) }

variable {isEnd d start}

/-- The parts determine what is collected. -/
theorem Partitions.eq {c : Collected} (h : c.Partitions isEnd d start) :
    c = collectUntil d start isEnd := by
  obtain ⟨lines, next, terminated⟩ := c
  cases terminated with
  | true =>
    obtain ⟨hstart, hnext, l, hl, hd⟩ := h.of_terminated rfl
    dsimp only at hstart hnext hd
    have hlength := congrArg List.length hd
    rw [List.length_append, List.length_cons, List.length_drop, List.length_drop] at hlength
    have heq : next = start + (lines.length + 1) := by omega
    rw [collectUntil_of_closed hd hl h.not_isEnd, heq]
  | false =>
    obtain ⟨hnext, hlines⟩ := h.of_not_terminated rfl
    dsimp only at hnext hlines
    have hopen : ∀ l ∈ d.drop start, isEnd l = false := hlines ▸ h.not_isEnd
    rw [collectUntil_of_open hopen, hnext, hlines]

/-- **Collecting takes the document apart.**  Wherever it starts, the loop over the index ends, and
it gives the lines, the index and the mark that `collectUntil` does.  These are the parts of the
document from there on, and they are determined by that. -/
theorem collectUntil_partitions (isEnd : Line → Bool) (d : Document) (start : Nat) :
    collectUntil? isEnd d start = some (collectUntil d start isEnd)
      ∧ (collectUntil d start isEnd).Partitions isEnd d start
      ∧ ∀ c : Collected, c.Partitions isEnd d start → c = collectUntil d start isEnd :=
  ⟨collectUntil?_eq isEnd d start, partitions_collectUntil isEnd d start, fun _ h => h.eq⟩

end Collected
end SlideDeck
