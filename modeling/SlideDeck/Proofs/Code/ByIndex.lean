import SlideDeck.Code.Figure
import SlideDeck.Code.SetupCode
import SlideDeck.Proofs.Document.Cursor

/-!
# Rules for code, by index

The rules for blocks of code as they are carried out on an array of lines.  Both move the index one
past the line that ends a block, and so two past the last line of the document if there is no such
line.

* `Figure.convert?_eq` — turns that look for a call in a range of lines.
* `SetupCode.remove?_eq` — turns that pass lines without asking for them again.
-/

set_option autoImplicit false

namespace SlideDeck

/-! ## Image chunks -/

namespace Figure

/-- The image chunk with the given options whose first line has an index, if it shows an image, and
the index behind it. -/
noncomputable def chunkAt? (d : Document) (options : Text) (i : Nat) :
    Option (Option ImageChunk × Nat) := do
  let (_, fence) ← pass isFence d (i + 1)
  let past := min fence d.length
  let lines ← slice? d (i + 1) past
  return (ofChunk? options ⟨lines, d[past]?, []⟩, past + 1)

/-- Converts the image chunk that starts with a line, or passes the line by. -/
noncomputable def turn (d : Document) (l : Line) (i : Nat) : Option (Document × Nat) :=
  match chunkOptions? l with
  | none => some ([l], i + 1)
  | some options => do
    let (chunk, next) ← chunkAt? d options i
    match chunk with
    | none => return ([l], i + 1)
    | some b => return (render b, next)

/-- Converts image chunks, by index. -/
noncomputable def convert? (d : Document) : Option Document := takeTurns (turn d) d 0

theorem chunkAt?_eq {d r : Document} {l : Line} {i : Nat} (h : d.drop i = l :: r)
    (options : Text) :
    chunkAt? d options i
      = some (ofChunk? options (Body.read isFence r), Body.past isFence d (i + 1) + 1) := by
  have hle : i + 1 ≤ d.length := lt_length_of_drop h
  have hpast := Body.past_le_length isFence d (i + 1) hle
  rw [chunkAt?, pass_eq_body]
  change (slice? d (i + 1) (min (Body.past isFence d (i + 1)) d.length) >>= fun lines => some _) = _
  rw [Nat.min_eq_left hpast, Body.slice?_past isFence d (i + 1) hle, Body.getElem?_past,
    drop_succ_of_drop h]
  rfl

theorem convert?_eq (d : Document) : convert? d = some (convert d) := by
  refine recogniser.takeTurns_eq_rewrite (fun i l r hr hread => ?_) fun i l t b r ht hread => ?_
  · change read (l :: r) = none at hread
    rw [turn]
    cases hoptions : chunkOptions? l with
    | none => rfl
    | some options =>
      rw [read, hoptions] at hread
      dsimp only
      rw [chunkAt?_eq hr, Option.map_eq_none_iff.1 hread]
      rfl
  · change read (l :: t) = some (b, r) at hread
    rw [turn]
    cases hoptions : chunkOptions? l with
    | none =>
      rw [read, hoptions] at hread
      cases hread
    | some options =>
      rw [read, hoptions] at hread
      obtain ⟨chunk, hchunk, hb⟩ := Option.map_eq_some_iff.1 hread
      obtain ⟨rfl, rfl⟩ := Prod.mk.inj hb
      refine ⟨Body.past isFence d (i + 1) + 1, ?_, ?_⟩
      · dsimp only
        rw [chunkAt?_eq ht, hchunk]
        rfl
      · rw [Body.drop_succ_past, drop_succ_of_drop ht]

end Figure

/-! ## Setup code -/

namespace SetupCode

/-- Drops the setup code that starts with a line, or passes the line by. -/
noncomputable def turn (d : Document) (l : Line) (i : Nat) : Option (Document × Nat) :=
  if setsCropHook l then some ([], i + 1)
  else if startsOptionsCall l then do
    let (_, past) ← pass isCloseParen d (i + 1)
    return ([], past + 1)
  else some ([l], i + 1)

/-- Removes setup code, by index. -/
noncomputable def remove? (d : Document) : Option Document := takeTurns (turn d) d 0

theorem remove?_eq (d : Document) : remove? d = some (remove d) := by
  refine recogniser.takeTurns_eq_rewrite (fun i l r hr hread => ?_) fun i l t b r ht hread => ?_
  · change read (l :: r) = none at hread
    rw [read] at hread
    split at hread
    · cases hread
    · next hhook =>
      split at hread
      · cases hread
      · next hcall => rw [turn, if_neg hhook, if_neg hcall]
  · change read (l :: t) = some (b, r) at hread
    rw [read] at hread
    split at hread
    · next hhook =>
      obtain ⟨-, rfl⟩ := Prod.mk.inj (Option.some.inj hread)
      exact ⟨i + 1, by rw [turn, if_pos hhook], drop_succ_of_drop ht⟩
    · next hhook =>
      split at hread
      · next hcall =>
        obtain ⟨-, rfl⟩ := Prod.mk.inj (Option.some.inj hread)
        refine ⟨Body.past isCloseParen d (i + 1) + 1, ?_, ?_⟩
        · rw [turn, if_neg hhook, if_pos hcall, pass_eq_body]
          rfl
        · rw [Body.drop_succ_past, drop_succ_of_drop ht]
      · cases hread

end SetupCode

end SlideDeck
