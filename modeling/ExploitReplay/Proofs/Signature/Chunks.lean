import ExploitReplay.Proofs.Signature.Returns

/-!
# Chunks of a clause

The pieces of a clause are read in chunks: a piece alone, or a piece and the one behind it that says
where the value is stored. Where one chunk ends and the next one starts depends on the words for
these places only, not on what is understood, and every chunk is read by itself. So a list of pieces
can be read in parts, and a chunk that is not understood changes nothing about the others.

## Main definitions

* `Chunk`: a piece, and the place that belongs to it
* `Chunk.recognised c`: the type that is read of it, if it is understood
* `Divided cs`: chunks that can stand one behind the other
* `chunksOf pieces`: the chunks of a list of pieces

## Main results

* `chunksOf_eq_iff`: every list of pieces is made of chunks in exactly one way
* `typesOf_eq_filterMap`: every chunk is read by itself
* `chunksOf_append`: no chunk straddles a place where the pieces start anew
* `typesOf_append`: the types of a list are those of its parts
* `typesOf_append_passedOver`: and a chunk that is not understood is passed over
-/

namespace ExploitReplay.Signature

/-- A piece of a clause, and the piece behind it if that one says where the value is stored. -/
structure Chunk where
  piece : String
  location : Option String := none
deriving DecidableEq, Repr

namespace Chunk

/-- The pieces of the chunk. -/
def pieces (c : Chunk) : List String :=
  c.piece :: c.location.toList

/-- The type that is read of the chunk, if it is understood. -/
def recognised (c : Chunk) : Option String :=
  understood (" ".intercalate c.pieces)

end Chunk

/-- The chunks of a list of pieces. -/
def chunksOf : List String → List Chunk
  | [] => []
  | [t] => [{ piece := t }]
  | t :: u :: rest =>
    if ValueType.isLocation u then { piece := t, location := some u } :: chunksOf rest
    else { piece := t } :: chunksOf (u :: rest)

/-- **Every chunk is read by itself.** -/
theorem typesOf_eq_filterMap (pieces : List String) :
    typesOf pieces = (chunksOf pieces).filterMap Chunk.recognised := by
  rw [List.filterMap_eq_flatMap_toList]
  fun_induction typesOf pieces with
  | case1 => rfl
  | case2 t => simp [chunksOf, Chunk.recognised, Chunk.pieces]
  | case3 t u rest hu ih =>
    rw [chunksOf, if_pos hu, List.flatMap_cons, ih]
    simp [Chunk.recognised, Chunk.pieces, String.append_assoc]
  | case4 t u rest hu ih =>
    rw [chunksOf, if_neg hu, List.flatMap_cons, ih]
    simp [Chunk.recognised, Chunk.pieces]

/-! ### Chunks one behind the other -/

/-- The chunks can stand one behind the other: what is taken for a place is one, and a chunk without
a place is not followed by one. -/
structure Divided (cs : List Chunk) : Prop where
  location : ∀ c ∈ cs, ∀ l ∈ c.location, ValueType.isLocation l = true
  apart : cs.IsChain fun c d => c.location = none → ValueType.isLocation d.piece = false

/-- The first piece of a list is the piece of its first chunk. -/
theorem head?_chunksOf (pieces : List String) :
    (chunksOf pieces).head?.map Chunk.piece = pieces.head? := by
  fun_cases chunksOf pieces <;> rfl

theorem divided_chunksOf (pieces : List String) : Divided (chunksOf pieces) := by
  fun_induction chunksOf pieces with
  | case1 => exact ⟨by simp, by simp⟩
  | case2 t => exact ⟨by simp, by simp⟩
  | case3 t u rest hu ih =>
    refine ⟨?_, ih.apart.cons (by simp)⟩
    simpa [hu] using ih.location
  | case4 t u rest hu ih =>
    refine ⟨by simpa using ih.location, ih.apart.cons fun d hd _ => ?_⟩
    have hhead := head?_chunksOf (u :: rest)
    rw [Option.mem_def.mp hd] at hhead
    obtain rfl : d.piece = u := Option.some.inj hhead
    simpa using hu

theorem flatMap_pieces_chunksOf (pieces : List String) :
    (chunksOf pieces).flatMap Chunk.pieces = pieces := by
  fun_induction chunksOf pieces with
  | case1 => rfl
  | case2 t => rfl
  | case3 t u rest hu ih => simp [Chunk.pieces, ih]
  | case4 t u rest hu ih => simp [Chunk.pieces, ih]

theorem Divided.chunksOf_flatMap {cs : List Chunk} (h : Divided cs) :
    chunksOf (cs.flatMap Chunk.pieces) = cs := by
  induction cs with
  | nil => rfl
  | cons c cs ih =>
    have ih := ih ⟨fun d hd => h.location d (List.mem_cons_of_mem _ hd), h.apart.tail⟩
    obtain ⟨t, l⟩ := c
    cases l with
    | some l =>
      have hl : ValueType.isLocation l = true := h.location _ List.mem_cons_self l rfl
      simp [Chunk.pieces, chunksOf, hl, ih]
    | none =>
      cases cs with
      | nil => rfl
      | cons d ds =>
        -- the first piece looks at the piece of the next chunk, which is no place
        have hd : ValueType.isLocation d.piece = false := (List.isChain_cons_cons.mp h.apart).1 rfl
        rw [List.flatMap_cons, Chunk.pieces, List.cons_append] at ih
        simp [Chunk.pieces, chunksOf, hd, ih]

/-- **Every list of pieces is made of chunks in exactly one way.** -/
theorem chunksOf_eq_iff {pieces : List String} {cs : List Chunk} :
    chunksOf pieces = cs ↔ cs.flatMap Chunk.pieces = pieces ∧ Divided cs := by
  constructor
  · rintro rfl
    exact ⟨flatMap_pieces_chunksOf pieces, divided_chunksOf pieces⟩
  · rintro ⟨rfl, h⟩
    exact h.chunksOf_flatMap

/-! ### Lists in parts -/

theorem Divided.of_isInfix {cs ds : List Chunk} (h : Divided ds) (hlies : cs <:+: ds) :
    Divided cs where
  location := fun c hc => h.location c (hlies.subset hc)
  apart := h.apart.infix hlies

/-- **No chunk straddles a place where the pieces start anew.** -/
theorem chunksOf_append (as : List String) {bs : List String} (h : StartsAnew bs) :
    chunksOf (as ++ bs) = chunksOf as ++ chunksOf bs := by
  -- the chunks of both parts together are divided, so they are the chunks of the list
  have has := divided_chunksOf as
  have hbs := divided_chunksOf bs
  have hjoin : ∀ c ∈ (chunksOf as).getLast?, ∀ d ∈ (chunksOf bs).head?,
      c.location = none → ValueType.isLocation d.piece = false := by
    intro c _ d hd _
    have hhead := head?_chunksOf bs
    rw [Option.mem_def.mp hd] at hhead
    exact h d.piece hhead.symm
  refine chunksOf_eq_iff.mpr ⟨?_, ?_, List.isChain_append.mpr ⟨has.apart, hbs.apart, hjoin⟩⟩
  · rw [List.flatMap_append, flatMap_pieces_chunksOf, flatMap_pieces_chunksOf]
  · intro c hc
    exact (List.mem_append.mp hc).elim (has.location c) (hbs.location c)

/-- **The types of a list are those of its parts.** -/
theorem typesOf_append (as : List String) {bs : List String} (h : StartsAnew bs) :
    typesOf (as ++ bs) = typesOf as ++ typesOf bs := by
  rw [typesOf_eq_filterMap, chunksOf_append as h, List.filterMap_append, ← typesOf_eq_filterMap,
    ← typesOf_eq_filterMap]

theorem Divided.typesOf_flatMap {cs : List Chunk} (h : Divided cs) :
    typesOf (cs.flatMap Chunk.pieces) = cs.filterMap Chunk.recognised := by
  rw [typesOf_eq_filterMap, h.chunksOf_flatMap]

/-- **A chunk that is not understood is passed over**, and the chunks around it are read as they are
without it. -/
theorem typesOf_of_recognised_eq_none {pieces : List String} {front back : List Chunk} {c : Chunk}
    (hchunks : chunksOf pieces = front ++ c :: back) (hc : c.recognised = none) :
    typesOf pieces =
      typesOf (front.flatMap Chunk.pieces) ++ typesOf (back.flatMap Chunk.pieces) := by
  have hdivided := divided_chunksOf pieces
  rw [hchunks] at hdivided
  have hfront := hdivided.of_isInfix (List.prefix_append front (c :: back)).isInfix
  have hback := hdivided.of_isInfix
    (((List.suffix_cons c back).trans (List.suffix_append front (c :: back))).isInfix)
  rw [hfront.typesOf_flatMap, hback.typesOf_flatMap, typesOf_eq_filterMap, hchunks,
    List.filterMap_append, List.filterMap_cons_none hc]

/-- **The types of a list are those of its parts**, if the second part does not start with a place.
They are the types of its chunks, each read by itself: a chunk that is not understood, with its place
or without one, is passed over, and the pieces in front of it and behind it are read as if they stood
alone. -/
theorem typesOf_append_passedOver (as : List String) {bs : List String} (h : StartsAnew bs) :
    typesOf (as ++ bs) = typesOf as ++ typesOf bs ∧
      typesOf (as ++ bs) = (chunksOf (as ++ bs)).filterMap Chunk.recognised ∧
      ∀ front c back, chunksOf (as ++ bs) = front ++ c :: back → c.recognised = none →
        typesOf (as ++ bs) =
          typesOf (front.flatMap Chunk.pieces) ++ typesOf (back.flatMap Chunk.pieces) := by
  refine ⟨typesOf_append as h, typesOf_eq_filterMap _, ?_⟩
  intro front c back hchunks hc
  exact typesOf_of_recognised_eq_none hchunks hc

/-- The first piece is a place that belongs to nothing. -/
def earlierPieces : List String :=
  ["memory", "uint", "total", "Order", "storage"]

/-- The last piece is a name. -/
def laterPieces : List String :=
  ["bytes", "calldata", "note"]

def chunksBeforeOrder : List Chunk :=
  [{ piece := "memory" }, { piece := "uint" }, { piece := "total" }]

/-- The type is not in the catalog, and the place belongs to it. -/
def orderChunk : Chunk :=
  { piece := "Order", location := some "storage" }

def chunksAfterOrder : List Chunk :=
  [{ piece := "bytes", location := some "calldata" }, { piece := "note" }]

theorem typesOf_append_passedOver_orderPieces :
    StartsAnew laterPieces ∧
      chunksOf (earlierPieces ++ laterPieces) =
        chunksBeforeOrder ++ orderChunk :: chunksAfterOrder ∧
      orderChunk.recognised = none ∧
      typesOf earlierPieces ++ typesOf laterPieces = ["uint256"] ++ ["bytes memory"] ∧
      typesOf (earlierPieces ++ laterPieces) =
        typesOf (chunksBeforeOrder.flatMap Chunk.pieces) ++
          typesOf (chunksAfterOrder.flatMap Chunk.pieces) := by
  have hanew : StartsAnew laterPieces := by
    intro u hu
    obtain rfl := Option.some.inj hu
    decide
  have hchunks : chunksOf (earlierPieces ++ laterPieces) =
      chunksBeforeOrder ++ orderChunk :: chunksAfterOrder := by decide +kernel
  have horder : orderChunk.recognised = none := by decide +kernel
  obtain ⟨happend, hread, hpassed⟩ := typesOf_append_passedOver earlierPieces hanew
  refine ⟨hanew, hchunks, horder, ?_, hpassed _ _ _ hchunks horder⟩
  rw [← happend, hread]
  decide +kernel

end ExploitReplay.Signature
