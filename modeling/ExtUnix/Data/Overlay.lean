import ExtUnix.Data.Splice

namespace ExtUnix.Data

/-! Writing into a file: the range may start at, or reach past, the current
end, and the gap between the old end and the range is filled. -/

/-- A zero-length write leaves the contents alone, wherever it is aimed. -/
def overlay (fill : α) (contents : List α) (position : Nat)
    (piece : List α) : List α :=
  if piece.isEmpty then contents
  else splice (contents.rightpad (position + piece.length) fill) position piece

@[simp] theorem overlay_nil (fill : α) (contents : List α) (position : Nat) :
    overlay fill contents position [] = contents := rfl

theorem overlay_of_ne_nil (fill : α) (contents : List α) (position : Nat)
    {piece : List α} (nonempty : piece ≠ []) :
    overlay fill contents position piece =
      splice (contents.rightpad (position + piece.length) fill)
        position piece := by
  simp [overlay, nonempty]

theorem length_overlay (fill : α) (contents : List α) (position : Nat)
    {piece : List α} (nonempty : piece ≠ []) :
    (overlay fill contents position piece).length =
      max contents.length (position + piece.length) := by
  rw [overlay_of_ne_nil fill contents position nonempty,
    length_splice (by rw [List.length_rightpad]; omega),
    List.length_rightpad, Nat.max_comm]

theorem getElem?_rightpad (contents : List α) (fill : α) (width index : Nat) :
    (contents.rightpad width fill)[index]? =
      if index < contents.length then contents[index]?
      else if index < width then some fill else none := by
  simp only [List.rightpad, List.getElem?_append, List.getElem?_replicate]
  split_ifs <;> first | rfl | omega

theorem getElem?_overlay (fill : α) (contents : List α) (position : Nat)
    {piece : List α} (nonempty : piece ≠ []) (index : Nat) :
    (overlay fill contents position piece)[index]? =
      if position ≤ index ∧ index < position + piece.length then
        piece[index - position]?
      else if index < contents.length then contents[index]?
      else if index < position then some fill
      else none := by
  rw [overlay_of_ne_nil fill contents position nonempty,
    getElem?_splice (by rw [List.length_rightpad]; omega),
    getElem?_rightpad]
  split_ifs <;> first | rfl | omega

theorem overlay_append (fill : α) (contents : List α) (position : Nat)
    (first second : List α) :
    overlay fill (overlay fill contents position first)
        (position + first.length) second =
      overlay fill contents position (first ++ second) := by
  by_cases firstEmpty : first = []
  · subst first
    simp
  by_cases secondEmpty : second = []
  · subst second
    simp
  have bothNonempty : first ++ second ≠ [] := by simp [firstEmpty]
  apply List.ext_getElem?
  intro index
  rw [getElem?_overlay _ _ _ secondEmpty, getElem?_overlay _ _ _ firstEmpty,
    getElem?_overlay _ _ _ bothNonempty, length_overlay _ _ _ firstEmpty]
  simp only [List.length_append, List.getElem?_append]
  split_ifs <;> first | rfl | omega | (congr 1; omega)

theorem slice_overlay (fill : α) (contents : List α) (position : Nat)
    (piece : List α) :
    slice (overlay fill contents position piece) position piece.length =
      piece := by
  by_cases nonempty : piece = []
  · subst piece
    simp
  rw [overlay_of_ne_nil fill contents position nonempty]
  exact slice_splice_self (by rw [List.length_rightpad]; omega)

theorem foldl_overlay (fill : α) {contents : List α} {position : Nat}
    {writes : List (Nat × List α)}
    (consecutive : ∀ (index : Nat) write, writes[index]? = some write →
      write.1 = position + ((writes.take index).flatMap Prod.snd).length) :
    writes.foldl (fun contents write => overlay fill contents write.1 write.2)
        contents =
      overlay fill contents position (writes.flatMap Prod.snd) := by
  induction writes generalizing contents position with
  | nil => simp
  | cons write rest induction =>
      have head : write.1 = position := by simpa using consecutive 0 write rfl
      have tail := @induction (overlay fill contents position write.2)
        (position + write.2.length) fun index later found => by
          have shifted := consecutive (index + 1) later found
          simpa [Nat.add_assoc] using shifted
      rw [List.foldl_cons, head, tail, overlay_append, List.flatMap_cons]

theorem overlay_comm (fill : α) (contents : List α) {first second : Nat}
    {piece other : List α}
    (disjoint : first + piece.length ≤ second ∨
      second + other.length ≤ first) :
    overlay fill (overlay fill contents first piece) second other =
      overlay fill (overlay fill contents second other) first piece := by
  by_cases pieceEmpty : piece = []
  · simp [pieceEmpty]
  by_cases otherEmpty : other = []
  · simp [otherEmpty]
  have pieceLength := List.length_pos_iff.mpr pieceEmpty
  have otherLength := List.length_pos_iff.mpr otherEmpty
  apply List.ext_getElem?
  intro index
  rw [getElem?_overlay _ _ _ otherEmpty, getElem?_overlay _ _ _ pieceEmpty,
    getElem?_overlay _ _ _ pieceEmpty, getElem?_overlay _ _ _ otherEmpty,
    length_overlay _ _ _ pieceEmpty, length_overlay _ _ _ otherEmpty]
  split_ifs <;> first | rfl | omega

theorem getElem?_overlay_outside (fill : α) {contents : List α}
    {position index : Nat} (piece : List α) (inside : index < contents.length)
    (outside : index < position ∨ position + piece.length ≤ index) :
    (overlay fill contents position piece)[index]? = contents[index]? := by
  by_cases empty : piece = []
  · simp [empty]
  rw [getElem?_overlay _ _ _ empty, if_neg (by omega), if_pos inside]

end ExtUnix.Data
