import SlideDeck.Proofs.Document.Counting
import SlideDeck.Proofs.Document.Rewriting
import SlideDeck.Proofs.Pipeline.MissingEnd

/-!
# Image chunks and code fences

Any code fence ends an image chunk, also one that opens another chunk, and of a chunk without image
only the opener is passed by.  Still an image is never made across a fence: what becomes a link is
an opener, the lines up to the next fence, and that fence.  So with each link two fences go, and
what is outside of the links is inside a code fence, or outside of all, as it was.

* `Figure.insideFence` and `Figure.insideChunk` — what the fences of some lines say of the line
  behind them.
* `Figure.convert_append` — lines that a chunk does not reach beyond are converted by themselves.
* `Figure.Linked` — what is to be known of a document cut into links and the lines between them.
* `Figure.links_within_fences` — the conversion cuts every document so.
-/

set_option autoImplicit false

namespace SlideDeck

/-- Whether a piece is a block. -/
def Piece.isBlock {α β : Type} : Piece α β → Bool
  | plain _ => false
  | block _ _ => true

namespace Figure

/-! ## Fences -/

/-- Whether what follows some lines is inside a code fence: every fence begins one or ends one. -/
def insideFence (d : Document) : Bool := d.countP isFence % 2 == 1

/-- Whether what follows some lines is between the opener of an R chunk and the next fence: the last
fence among them is such an opener. -/
def insideChunk (d : Document) : Bool :=
  (d.filter isFence).getLast?.any fun l => (chunkOptions? l).isSome

theorem isFence_of_chunkOptions {l : Line} {options : Text} (h : chunkOptions? l = some options) :
    isFence l = true := by
  obtain ⟨r, hr, -⟩ := Option.bind_eq_some_iff.1 h
  rw [Text.after?_eq_some_iff] at hr
  rw [hr]
  exact Line.opensWith_append (List.cons_ne_nil _ _) (by decide) (by decide) ("\x7br".toList ++ r)

theorem not_isFence_link (b : ImageChunk) : ∀ l ∈ render b, isFence l = false := by
  refine List.forall_mem_singleton.2 ?_
  have hlink : Line.opensWith ("![](".toList ++ b.path ++ ")".toList ++ sizeAttribute b.size
      ++ ['\n']) ['!'] = true := Line.opensWith_cons (by decide) _
  exact Line.opensWith_eq_false hlink (by decide) (by decide)

/-- An image chunk that has its end has two fences, and its link has none. -/
theorem countP_source {front : Document} {b : ImageChunk} (h : Source front b)
    (hb : b.closed = true) :
    front.countP isFence = (render b).countP isFence + 2 := by
  have hlink : (render b).countP isFence = 0 := by
    simpa [List.countP_eq_zero] using not_isFence_link b
  cases h with
  | @mk l call options argument body hl hlines hclosing hcall hgraphics hargument =>
    obtain ⟨c, hc⟩ := Option.isSome_iff_exists.1 hb
    have hbody : body.lines.countP isFence = 0 := by simpa [List.countP_eq_zero] using hlines
    rw [hlink, hc, Option.toList_some, List.countP_append, List.countP_cons_of_pos
      (isFence_of_chunkOptions hl), hbody, List.countP_singleton, if_pos (hclosing c hc)]

/-- Where a chunk is opened that reaches to the end, what follows is inside it. -/
theorem insideChunk_append {l : Line} {options : Text} (hl : chunkOptions? l = some options)
    (front : Document) {back : Document} (hback : ∀ m ∈ back, isFence m = false) :
    insideChunk (front ++ l :: back) = true := by
  have hnone : back.filter isFence = [] := by simpa [List.filter_eq_nil_iff] using hback
  rw [insideChunk, List.filter_append, List.filter_cons_of_pos (isFence_of_chunkOptions hl), hnone,
    List.getLast?_concat, Option.any_some, hl, Option.isSome_some]

/-! ## What follows a chunk -/

/-- A chunk without closing fence takes all that follows. -/
theorem rest_of_open {s r : Document} {b : ImageChunk} (h : read s = some (b, r))
    (hb : b.closed = false) : r = [] := by
  cases s with
  | nil => cases h
  | cons l d =>
    simp only [read] at h
    split at h
    · cases h
    · obtain ⟨b', hb', heq⟩ := Option.map_eq_some_iff.1 h
      obtain ⟨rfl, rfl⟩ := Prod.mk.inj heq
      rw [closed_of_ofChunk hb'] at hb
      rw [Body.read_of_open hb]

/-- A line with a fence behind it is read in the same way whatever follows that fence. -/
theorem read_append_of_fence {d : Document} (h : ∃ m ∈ d, isFence m = true) (l : Line)
    (e : Document) : read (l :: (d ++ e)) = (read (l :: d)).map fun p => (p.1, p.2 ++ e) := by
  have hclosed : (Body.read isFence d).closed = true := List.find?_isSome.2 h
  rw [read, read]
  cases chunkOptions? l with
  | none => rfl
  | some options =>
    have hsame : ofChunk? options (Body.read isFence (d ++ e))
        = ofChunk? options (Body.read isFence d) := by
      rw [Body.read_append_of_closed hclosed]
      rfl
    dsimp only
    rw [hsame, Body.read_append_of_closed hclosed, Option.map_map]
    rfl

/-- Lines that no chunk reaches beyond are converted by themselves. -/
theorem convert_append {a : Document} (h : insideChunk a = false) (e : Document) :
    convert (a ++ e) = convert a ++ convert e := by
  refine recogniser.rewrite_append_of_read_append render fun t hne ht => ?_
  obtain ⟨l, d, rfl⟩ := List.exists_cons_of_ne_nil hne
  show (read (l :: (d ++ e))).map _ = (read (l :: d)).map _
  by_cases hfence : ∃ m ∈ d, isFence m = true
  · rw [read_append_of_fence hfence, Option.map_map]
    rfl
  · have hplain : chunkOptions? l = none := by
      rw [Option.eq_none_iff_forall_ne_some]
      intro options hl
      obtain ⟨front, rfl⟩ := ht
      have hback : ∀ m ∈ d, isFence m = false := by simpa using hfence
      rw [insideChunk_append hl front hback] at h
      cases h
    rw [read_of_plain hplain, read_of_plain hplain]
    rfl

/-! ## Links -/

/-- What is to be known of the pieces of a document, its links and the lines between them. -/
structure Linked (d : Document) (ps : List (Piece Line ImageChunk)) : Prop where
  /-- The pieces make up the document. -/
  source : ps.flatMap Piece.source = d
  /-- They make up the converted document, with each line that is no link as it was. -/
  result : ps.flatMap (Piece.render render) = convert d
  /-- One line with an image takes the place of a chunk. -/
  chunk : ∀ s b, Piece.block s b ∈ ps → Source s b ∧ ∃ rest, render b = ["![](".toList ++ rest]
  /-- Without closing fence it is the last piece, and there is a warning. -/
  unclosed : ∀ before s b after, ps = before ++ .block s b :: after → b.closed = false →
    after = [] ∧ Event.warnings (events d)
      = [.imageChunkUnclosed ((before.flatMap Piece.source).length + 1)]
  /-- Without warning two fences go with every link. -/
  fences : Event.warnings (events d) = [] →
    d.countP isFence = (convert d).countP isFence + 2 * ps.countP Piece.isBlock
  /-- A line that is kept is inside a code fence exactly if it was. -/
  inside : ∀ before l after, ps = before ++ .plain l :: after →
    insideFence (before.flatMap (Piece.render render))
      = insideFence (before.flatMap Piece.source)

/-- Pieces of which every link stands for a whole chunk lose two fences with each link. -/
theorem countP_pieces {ps : List (Piece Line ImageChunk)}
    (hsource : ∀ s b, Piece.block s b ∈ ps → Source s b)
    (hclosed : ∀ s b, Piece.block s b ∈ ps → b.closed = true) :
    (ps.flatMap Piece.source).countP isFence
      = (ps.flatMap (Piece.render render)).countP isFence + 2 * ps.countP Piece.isBlock := by
  induction ps with
  | nil => rfl
  | cons p ps ih =>
    have hrest := ih (fun s b h => hsource s b (List.mem_cons_of_mem p h))
      fun s b h => hclosed s b (List.mem_cons_of_mem p h)
    rw [List.flatMap_cons, List.flatMap_cons, List.countP_append, List.countP_append, hrest]
    cases p with
    | plain l =>
      rw [List.countP_cons_of_neg (by simp [Piece.isBlock]), Piece.source_plain, Piece.render_plain]
      omega
    | block s b =>
      have hblock := countP_source (hsource s b (List.mem_cons_self ..))
        (hclosed s b (List.mem_cons_self ..))
      rw [List.countP_cons_of_pos rfl, Piece.source_block, Piece.render_block, hblock]
      omega

section Pieces

variable {d : Document} {before after : List (Piece Line ImageChunk)}

/-- Only the last piece can lack its end. -/
theorem closed_of_mem_before (h : recogniser.pieces d = before ++ after) (hafter : after ≠ [])
    {s : Document} {b : ImageChunk} (hb : Piece.block s b ∈ before) : b.closed = true := by
  obtain ⟨front, back, rfl⟩ := List.append_of_mem hb
  rw [List.append_assoc, List.cons_append] at h
  obtain ⟨r, hr, hread⟩ := recogniser.read_of_pieces h
  by_contra hopen
  rw [rest_of_open hread (Bool.eq_false_iff.2 hopen), Recogniser.pieces_nil] at hr
  exact hafter (List.append_eq_nil_iff.1 hr).2

theorem source_of_pieces {s : Document} {b : ImageChunk}
    (hb : Piece.block s b ∈ recogniser.pieces d) : Source s b := by
  obtain ⟨before, after, h⟩ := List.append_of_mem hb
  obtain ⟨r, -, hread⟩ := recogniser.read_of_pieces h
  exact source_of_read_append hread

end Pieces

/-- What is told of the chunks among pieces, the first of which begins at a line. -/
def tell (n : Nat) (ps : List (Piece Line ImageChunk)) : List Event :=
  (Piece.numbered n ps).flatMap fun (n, _, b) =>
    (if b.closed then [] else [.imageChunkUnclosed n]) ++ [.imageChunk n b.path]

theorem tell_block (n : Nat) (s : Document) (b : ImageChunk) (ps : List (Piece Line ImageChunk)) :
    tell n (.block s b :: ps)
      = (if b.closed then [] else [.imageChunkUnclosed n]) ++ [.imageChunk n b.path]
        ++ tell (n + s.length) ps :=
  rfl

theorem tell_append (n : Nat) (ps qs : List (Piece Line ImageChunk)) :
    tell n (ps ++ qs) = tell n ps ++ tell (n + (ps.flatMap Piece.source).length) qs := by
  rw [tell, Piece.numbered_append, List.flatMap_append, tell, tell]

theorem warnings_tell_of_closed {ps : List (Piece Line ImageChunk)}
    (h : ∀ s b, Piece.block s b ∈ ps → b.closed = true) (n : Nat) :
    Event.warnings (tell n ps) = [] := by
  induction ps generalizing n with
  | nil => rfl
  | cons p ps ih =>
    have hrest := ih fun s b hb => h s b (List.mem_cons_of_mem p hb)
    cases p with
    | plain l => exact hrest (n + 1)
    | block s b =>
      have hb := h s b (List.mem_cons_self ..)
      rw [tell_block, if_pos hb, Event.warnings_append, hrest (n + s.length)]
      rfl

/-- The one chunk that can lack its end is told with the number of its opener. -/
theorem warnings_of_open {d s : Document} {b : ImageChunk}
    {before after : List (Piece Line ImageChunk)}
    (h : recogniser.pieces d = before ++ .block s b :: after) (hb : b.closed = false) :
    after = [] ∧ Event.warnings (events d)
      = [.imageChunkUnclosed ((before.flatMap Piece.source).length + 1)] := by
  obtain ⟨r, hr, hread⟩ := recogniser.read_of_pieces h
  rw [rest_of_open hread hb, Recogniser.pieces_nil] at hr
  refine ⟨hr, ?_⟩
  have hclosed : ∀ s' b', Piece.block s' b' ∈ before → b'.closed = true :=
    fun _ _ => closed_of_mem_before h (List.cons_ne_nil _ _)
  have htell : events d = tell 1 (before ++ [.block s b]) := by
    rw [← hr, ← h]
    rfl
  rw [htell, tell_append, tell_block, Event.warnings_append, warnings_tell_of_closed hclosed,
    if_neg (Bool.eq_false_iff.1 hb), Nat.add_comm 1]
  rfl

theorem closed_of_no_warnings {d s : Document} {b : ImageChunk}
    (h : Event.warnings (events d) = []) (hb : Piece.block s b ∈ recogniser.pieces d) :
    b.closed = true := by
  by_contra hopen
  obtain ⟨before, after, hpieces⟩ := List.append_of_mem hb
  have hwarnings := (warnings_of_open hpieces (Bool.eq_false_iff.2 hopen)).2
  rw [h] at hwarnings
  cases hwarnings

theorem linked_pieces (d : Document) : Linked d (recogniser.pieces d) where
  source := recogniser.pieces_source d
  result := rfl
  chunk _ b hb := ⟨source_of_pieces hb,
    b.path ++ ")".toList ++ sizeAttribute b.size ++ ['\n'], rfl⟩
  unclosed _ _ _ _ h hb := warnings_of_open h hb
  fences h := by
    have hcount := countP_pieces (fun _ _ hb => source_of_pieces hb)
      fun _ _ hb => closed_of_no_warnings h hb
    rwa [recogniser.pieces_source] at hcount
  inside before l after h := by
    have hsource : ∀ s b, Piece.block s b ∈ before → Source s b := by
      intro s b hb
      exact source_of_pieces (h ▸ List.mem_append_left _ hb)
    have hclosed : ∀ s b, Piece.block s b ∈ before → b.closed = true :=
      fun _ _ => closed_of_mem_before h (List.cons_ne_nil _ _)
    rw [insideFence, insideFence, countP_pieces hsource hclosed, Nat.add_mul_mod_self_left]

/-- **A link is never made across a fence.**  A document is cut into lines that are kept and chunks
that become a link: each chunk is an opener, lines without fence of which one has a complete call,
and the next fence, or it is the last and there is a warning.  Two fences go with each link, so what
is kept stays inside the code fences or outside of them.  A line that opens no chunk is kept where
it is, if it is not between the opener of an R chunk and the next fence. -/
theorem links_within_fences (d : Document) :
    (∃ ps, Linked d ps)
      ∧ ∀ a l e, d = a ++ l :: e → insideChunk a = false → chunkOptions? l = none →
        convert d = convert a ++ l :: convert e := by
  refine ⟨⟨recogniser.pieces d, linked_pieces d⟩, fun a l e hd ha hl => ?_⟩
  rw [hd, convert_append ha]
  exact congrArg (convert a ++ ·)
    (recogniser.rewrite_cons_of_none render (read_of_plain hl e))

/-- A call behind a chunk and before one that is not closed. -/
theorem links_within_fences_between :
    (∃ ps, Linked
        (["```\x7br\x7d\n".toList, "knitr::include_graphics('a')\n".toList, "```\n".toList]
          ++ "knitr::include_graphics('b')\n".toList
            :: ["```\x7br\x7d\n".toList, "knitr::include_graphics('c')\n".toList]) ps)
      ∧ convert (["```\x7br\x7d\n".toList, "knitr::include_graphics('a')\n".toList, "```\n".toList]
          ++ "knitr::include_graphics('b')\n".toList
            :: ["```\x7br\x7d\n".toList, "knitr::include_graphics('c')\n".toList])
        = convert ["```\x7br\x7d\n".toList, "knitr::include_graphics('a')\n".toList, "```\n".toList]
          ++ "knitr::include_graphics('b')\n".toList
            :: convert ["```\x7br\x7d\n".toList, "knitr::include_graphics('c')\n".toList] := by
  obtain ⟨hlinked, houtside⟩ := links_within_fences
    (["```\x7br\x7d\n".toList, "knitr::include_graphics('a')\n".toList, "```\n".toList]
      ++ "knitr::include_graphics('b')\n".toList
        :: ["```\x7br\x7d\n".toList, "knitr::include_graphics('c')\n".toList])
  exact ⟨hlinked, houtside _ _ _ rfl (by decide +kernel) (by decide +kernel)⟩

end Figure
end SlideDeck
