import Mathlib.Data.List.Forall2
import Stencil.Proofs.Document.Extension
import Stencil.Proofs.Evaluation.Depth
import Stencil.Proofs.Evaluation.FreeNames

/-!
# Joining templates

Two templates one after the other are cut into the chunks of both, where the texts at the seam are
one. Tags say the same wherever they stand, so the outline of the second template grows on that of
the first one as it would from nothing. The main statement is that the two together are rendered as
one after the other.
-/

namespace Stencil

/-! ## Chunks at the seam -/

namespace Chunk

/-- The same text, or tags with the same content. -/
inductive Same : Chunk → Chunk → Prop
  /-- The same text. -/
  | text (content : List Char) : Same (.text content) (.text content)
  /-- The same content at two positions. -/
  | tag (content : List Char) (position place : Position) :
    Same (.tag content position) (.tag content place)

/-- Chunks are the same as themselves. -/
theorem same_refl (chunks : List Chunk) : List.Forall₂ Same chunks chunks := by
  refine List.forall₂_same.mpr fun chunk _ => ?_
  cases chunk with
  | text content => exact .text content
  | tag content position => exact .tag content position position

/-- A template behind a text without a marker has the same chunks, but for its text in front. -/
theorem splitFrom_join {position : Position} {source : List Char} {chunks : List Chunk}
    (cut : splitFrom .standard position source = .ok chunks) {text : List Char}
    (absent : Text.occursIn ['{', '{'] text = false)
    (apart : text.getLast? ≠ some '{' ∨ source.head? ≠ some '{') (place : Position) :
    ∃ seam others twins, chunks = ofText seam ++ others ∧
      splitFrom .standard place (text ++ source) = .ok (ofText (text ++ seam) ++ twins) ∧
        List.Forall₂ Same others twins := by
  have marker : Delimiters.standard.opening.toList = ['{', '{'] := by decide
  fun_induction splitFrom .standard position source generalizing chunks text place with
  | case1 position source missing =>
    cases cut
    refine ⟨source, [], [], (List.append_nil _).symm, ?_, .nil⟩
    rw [marker] at missing
    have alone := Text.splitFirst?_append_left source absent apart
    rw [missing] at alone
    rw [splitFrom, marker, alone, List.append_nil]
    rfl
  | case2 => cases cut
  | case3 position source before after opened tagPosition contentPosition content rest closed
      shorter =>
    rename_i next ih
    obtain ⟨later, further, ⟨⟩⟩ := bind_eq_ok_iff.mp cut
    rw [marker] at opened
    have found := Text.splitFirst?_append_left source absent apart
    rw [opened] at found
    have less : rest.length < (text ++ source).length := by
      rw [List.length_append]
      omega
    -- Behind the tag nothing stands between it and the rest.
    obtain ⟨seam, others, twins, rfl, again, same⟩ := @ih _ further [] rfl (Or.inl (by simp))
      ((((place.advance (text ++ before)).advance ['{', '{']).advance content).advance
        Delimiters.standard.closing.toList)
    rw [List.nil_append] at again
    refine ⟨before, _, .tag content ((place.advance (text ++ before)).advance ['{', '{']) ::
      (ofText seam ++ twins), rfl, ?_, .cons (.tag _ _ _) (List.rel_append (same_refl _) same)⟩
    rw [splitFrom, marker, found]
    simp only [Option.map_some, closed, less, ↓reduceIte, again]
    rfl
  | case4 position source before after opened tagPosition contentPosition content rest closed =>
    have less := Text.length_of_splitFirst? Delimiters.standard.opening_ne opened
    have enough := congrArg List.length (eq_of_splitTag? closed)
    simp only [List.length_append] at enough
    omega

end Chunk

/-! ## Outlines on other outlines -/

namespace Outline

/-- Outlines that have grown in the same way, outside of all blocks on the nodes of a base and on
those of a floor; the positions of their open blocks may differ. -/
inductive Parallel (base floor : List Node) : Outline → Outline → Prop
  /-- Outside of all blocks. -/
  | outside (nodes : List Node) : Parallel base floor ⟨nodes ++ base, []⟩ ⟨nodes ++ floor, []⟩
  /-- Inside a block. -/
  | inside (nodes : List Node) (part : OpenPart) (position place : Position)
    {before after : List Node} {blocks others : List OpenBlock}
    (around : Parallel base floor ⟨before, blocks⟩ ⟨after, others⟩) :
    Parallel base floor ⟨nodes, ⟨part, position, before⟩ :: blocks⟩
      ⟨nodes, ⟨part, place, after⟩ :: others⟩

namespace Parallel

variable {base floor : List Node} {outline twin next : Outline} {delimiters : Delimiters}

/-- A node may be added to both. -/
theorem push (parallel : Parallel base floor outline twin) (node : Node) :
    Parallel base floor (outline.push node) (twin.push node) := by
  cases parallel with
  | outside nodes => exact .outside (node :: nodes)
  | inside nodes part position place around =>
    exact .inside (node :: nodes) part position place around

/-- As many blocks are open in both. -/
theorem length_eq (parallel : Parallel base floor outline twin) :
    twin.blocks.length = outline.blocks.length := by
  induction parallel with
  | outside => rfl
  | inside nodes part position place around ih => exact congrArg Nat.succ ih

/-- Both do what a tag says, wherever it stands. -/
theorem applyTag (parallel : Parallel base floor outline twin) {tag : Tag} (place : Position)
    (applied : outline.applyTag delimiters tag = .ok next) :
    ∃ image, twin.applyTag delimiters (tag.moveTo place) = .ok image ∧
      Parallel base floor next image := by
  cases tag with
  | comment =>
    cases applied
    exact ⟨twin, rfl, parallel⟩
  | output expression =>
    cases applied
    exact ⟨_, rfl, parallel.push _⟩
  | opening header position =>
    rw [Outline.applyTag] at applied
    rw [Tag.moveTo, Outline.applyTag, parallel.length_eq]
    split at applied
    · cases applied
    · rename_i room
      cases applied
      rw [if_neg room]
      exact ⟨_, rfl, .inside [] _ position place parallel⟩
  | continuation branch position =>
    cases parallel with
    | outside => cases applied
    | inside nodes part opened found around =>
      simp only [Outline.applyTag] at applied
      simp only [Tag.moveTo, Outline.applyTag]
      split at applied
      · rename_i further _
        cases applied
        exact ⟨_, rfl, .inside [] further opened found around⟩
      · cases applied
  | closing position =>
    cases parallel with
    | outside => cases applied
    | inside nodes part opened found around =>
      cases applied
      exact ⟨_, rfl, around.push _⟩

/-- Both take in the same chunk. -/
theorem step (parallel : Parallel base floor outline twin) {chunk other : Chunk}
    (same : chunk.Same other) (stepped : outline.step delimiters chunk = .ok next) :
    ∃ image, twin.step delimiters other = .ok image ∧ Parallel base floor next image := by
  cases same with
  | text content =>
    cases stepped
    exact ⟨_, rfl, parallel.push _⟩
  | tag content position place =>
    obtain ⟨tag, reads, applied⟩ := bind_eq_ok_iff.mp stepped
    obtain ⟨image, moved, onward⟩ := parallel.applyTag _ applied
    exact ⟨image, bind_eq_ok_iff.mpr ⟨_, (Tag.parse_moveTo reads).2 place, moved⟩, onward⟩

/-- Both take in the same chunks one by one. -/
theorem folded (parallel : Parallel base floor outline twin) {chunks others : List Chunk}
    (same : List.Forall₂ Chunk.Same chunks others)
    (taken : chunks.foldlM (Outline.step delimiters) outline = .ok next) :
    ∃ image, others.foldlM (Outline.step delimiters) twin = .ok image ∧
      Parallel base floor next image := by
  induction same generalizing outline twin with
  | nil =>
    cases taken
    exact ⟨twin, rfl, parallel⟩
  | cons first rest ih =>
    rw [List.foldlM_cons] at taken
    obtain ⟨middle, stepped, later⟩ := bind_eq_ok_iff.mp taken
    obtain ⟨image, moved, onward⟩ := parallel.step first stepped
    obtain ⟨last, others, final⟩ := ih onward later
    exact ⟨last, by rw [List.foldlM_cons]; exact bind_eq_ok_iff.mpr ⟨image, moved, others⟩, final⟩

end Parallel

end Outline

/-! ## Documents in a row -/

namespace Document

/-- The nodes of a text. -/
def literals (text : List Char) : List Node :=
  if text.isEmpty then [] else [.literal (String.ofList text)]

/-- A text has the same nodes in either order. -/
theorem reverse_literals (text : List Char) : (literals text).reverse = literals text := by
  cases text <;> rfl

/-- A text is taken in as its nodes. -/
theorem folded_ofText (delimiters : Delimiters) (text : List Char) (nodes : List Node)
    (blocks : List OpenBlock) :
    (Chunk.ofText text).foldlM (Outline.step delimiters) ⟨nodes, blocks⟩ =
      .ok ⟨literals text ++ nodes, blocks⟩ := by
  cases text <;> rfl

/-- A text is rendered as itself. -/
theorem renderAll_literals (limit depth : Nat) (store : Store) (text : List Char) :
    Node.renderAll limit depth store (literals text) = .ok (String.ofList text) := by
  cases text with
  | nil => rfl
  | cons first rest => exact congrArg Except.ok String.append_empty

/-- Nodes with a text at the seam are rendered as those before and those behind it, each with its part
of the text. -/
theorem renderAll_join (limit : Nat) (store : Store) (nodes others : List Node)
    (text seam : List Char) :
    Node.renderAll limit 0 store (nodes ++ (literals (text ++ seam) ++ others)) = do
      let first ← Node.renderAll limit 0 store (nodes ++ literals text)
      let second ← Node.renderAll limit 0 store (literals seam ++ others)
      return first ++ second := by
  simp only [Node.renderAll_append, renderAll_literals]
  cases Node.renderAll limit 0 store nodes with
  | error failure => rfl
  | ok first =>
    cases Node.renderAll limit 0 store others with
    | error failure => rfl
    | ok second =>
      refine congrArg Except.ok ?_
      rw [String.ofList_append, String.append_assoc, String.append_assoc]

/-- A template that is accepted is cut into chunks that are cut off every template that starts with
them, and a text without a marker. -/
theorem exists_cutOff_of_parse {source : String} {document : Document}
    (accepted : parse .standard source = .ok document) :
    ∃ firm text nodes, Chunk.CutOff .standard .origin firm ∧
      source.toList = Chunk.writtenAll .standard firm ++ text ∧
      Text.occursIn ['{', '{'] text = false ∧
      (∀ last, text.getLast? = some last → source.toList.getLast? = some last) ∧
      firm.foldlM (Outline.step .standard) .start = .ok ⟨nodes, []⟩ ∧
        document = ⟨nodes.reverse ++ literals text⟩ := by
  obtain ⟨chunks, grown, cut, folded, rfl⟩ := parse_eq_ok_iff_folded.mp accepted
  obtain ⟨firm, text, rfl, cutOff, whole, absent, last⟩ := Chunk.exists_cutOff_all cut
    fun _ _ member => Outline.exists_tag_of_mem_folded folded member
  obtain ⟨⟨nodes, blocks⟩, before, behind⟩ := Outline.folded_append_iff.mp folded
  rw [folded_ofText] at behind
  cases behind
  refine ⟨firm, text, nodes, cutOff, whole, absent, last, before, ?_⟩
  rw [List.reverse_append, reverse_literals]

/-- Two templates that are accepted make a template together, whose document has the nodes of both
with one text at the seam, unless the first one ends in the brace with which the second one
starts. -/
theorem exists_parse_append {front back : String} {first second : Document}
    (acceptsFront : parse .standard front = .ok first)
    (acceptsBack : parse .standard back = .ok second)
    (apart : ¬(front.toList.getLast? = some '{' ∧ back.toList.head? = some '{')) :
    ∃ nodes text seam others, first = ⟨nodes ++ literals text⟩ ∧
      second = ⟨literals seam ++ others⟩ ∧ parse .standard (front ++ back) =
        .ok ⟨nodes ++ (literals (text ++ seam) ++ others)⟩ := by
  obtain ⟨firm, text, nodes, cutOff, whole, absent, last, grown, rfl⟩ :=
    exists_cutOff_of_parse acceptsFront
  obtain ⟨chunks, grownBack, cut, folded, rfl⟩ := parse_eq_ok_iff_folded.mp acceptsBack
  have separate : text.getLast? ≠ some '{' ∨ back.toList.head? ≠ some '{' :=
    (not_and_or.mp apart).imp_left fun ends brace => ends (last '{' brace)
  obtain ⟨seam, others, twins, rfl, joined, same⟩ := Chunk.splitFrom_join cut absent separate
    (Position.origin.advance (Chunk.writtenAll .standard firm))
  have cutBoth : Chunk.split .standard (front ++ back) =
      .ok (firm ++ (Chunk.ofText (text ++ seam) ++ twins)) := by
    rw [Chunk.split, String.toList_append, whole, List.append_assoc, cutOff, joined]
    rfl
  obtain ⟨middle, inFront, behind⟩ := Outline.folded_append_iff.mp folded
  rw [Outline.start, folded_ofText, List.append_nil] at inFront
  cases inFront
  -- Behind the seam both outlines grow in the same way, on the nodes that each of them has there.
  have seams := @Outline.Parallel.outside (literals seam) (literals (text ++ seam) ++ nodes) []
  obtain ⟨image, onward, parallel⟩ := seams.folded same behind
  cases parallel with
  | outside others =>
    have taken : (firm ++ (Chunk.ofText (text ++ seam) ++ twins)).foldlM (Outline.step .standard)
        .start = .ok ⟨others ++ (literals (text ++ seam) ++ nodes), []⟩ :=
      Outline.folded_append_iff.mpr ⟨_, grown,
        Outline.folded_append_iff.mpr ⟨_, folded_ofText .standard _ nodes [], onward⟩⟩
    refine ⟨nodes.reverse, text, seam, others.reverse, rfl, ?_,
      parse_eq_ok_iff_folded.mpr ⟨_, _, cutBoth, taken, ?_⟩⟩ <;>
        simp only [List.reverse_append, reverse_literals, List.append_assoc]

/-- Two templates that are accepted make a template together, unless the first one ends in the brace
with which the second one starts. It is rendered as one after the other, in every store and at every
limit, and when one of them cannot be rendered it fails with the limit. -/
theorem render_append {front back : String} {first second : Document}
    (acceptsFront : parse .standard front = .ok first)
    (acceptsBack : parse .standard back = .ok second)
    (apart : ¬(front.toList.getLast? = some '{' ∧ back.toList.head? = some '{')) :
    ∃ document, parse .standard (front ++ back) = .ok document ∧ ∀ limit store,
      (∀ earlier later, first.render limit store = .ok earlier →
        second.render limit store = .ok later →
          document.render limit store = .ok (earlier ++ later)) ∧
      ((∃ failure, first.render limit store = .error failure) ∨
          (∃ failure, second.render limit store = .error failure) →
        document.render limit store = .error (.renderDepthExceeded limit)) := by
  obtain ⟨nodes, text, seam, others, rfl, rfl, accepted⟩ :=
    exists_parse_append acceptsFront acceptsBack apart
  refine ⟨_, accepted, fun limit store => ?_⟩
  simp only [render, renderAll_join]
  constructor
  · intro earlier later renders rendersToo
    rw [renders, rendersToo]
    rfl
  · rintro (⟨failure, fails⟩ | ⟨failure, fails⟩)
    · rw [fails]
      exact congrArg Except.error (Node.renderAll_eq_error _ fails)
    · cases earlier : Node.renderAll limit 0 store (nodes ++ literals text) with
      | error refusal => exact congrArg Except.error (Node.renderAll_eq_error _ earlier)
      | ok first =>
        rw [fails]
        exact congrArg Except.error (Node.renderAll_eq_error _ fails)

/-- A block and a text that ends in a brace, before a text that starts with another one and an
output: enough depth for the block, and too little. -/
theorem render_append_sample :
    let front := "\x7b\x7b if true \x7d\x7d'\x7b\x7b end \x7d\x7d\x7b"
    let back := "\x7d\x7b\x7b 1 \x7d\x7d"
    let store : Store := ⟨[], []⟩
    ∃ document, parse .standard (front ++ back) = .ok document ∧
      document.render 1 store = .ok "'\x7b\x7d1" ∧
        document.render 0 store = .error (.renderDepthExceeded 0) := by
  intro front back store
  obtain ⟨first, acceptsFront⟩ : ∃ first, parse .standard front = .ok first :=
    exists_eq_ok_iff.mpr (by decide +kernel)
  obtain ⟨second, acceptsBack⟩ : ∃ second, parse .standard back = .ok second :=
    exists_eq_ok_iff.mpr (by decide +kernel)
  have renders : (parse .standard front >>= fun first => parse .standard back >>= fun second =>
      .ok (first.render 1 store, second.render 1 store, first.render 0 store)) =
        .ok (.ok "'\x7b", .ok "\x7d1", .error (.renderDepthExceeded 0)) := by
    decide +kernel
  rw [acceptsFront, acceptsBack] at renders
  obtain ⟨earlier, later, fails⟩ : _ ∧ _ ∧ _ := by simpa only [bind, Except.bind,
    Except.ok.injEq, Prod.mk.injEq] using renders
  obtain ⟨document, accepted, rendered⟩ := render_append acceptsFront acceptsBack (by decide)
  exact ⟨document, accepted, (rendered 1 store).1 _ _ earlier later,
    (rendered 0 store).2 (Or.inl ⟨_, fails⟩)⟩

end Document

end Stencil
