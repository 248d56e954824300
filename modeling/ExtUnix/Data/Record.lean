import ExtUnix.Data.Splice

namespace ExtUnix.Data

/-! Several pieces written into a list, at disjoint positions. -/

def spliceAll (values : List α) (writes : List (Nat × List α)) : List α :=
  writes.foldl (fun values write => splice values write.1 write.2) values

def Apart (first second : Nat × List α) : Prop :=
  first.1 + first.2.length ≤ second.1 ∨ second.1 + second.2.length ≤ first.1

theorem Apart.symm {first second : Nat × List α} (apart : Apart first second) :
    Apart second first :=
  Or.symm apart

def Within (size : Nat) (write : Nat × List α) : Prop :=
  write.1 + write.2.length ≤ size

theorem length_spliceAll {values : List α} {writes : List (Nat × List α)}
    (within : ∀ write ∈ writes, Within values.length write) :
    (spliceAll values writes).length = values.length := by
  induction writes generalizing values with
  | nil => rfl
  | cons write rest induction =>
      have width := length_splice (within write (by simp))
      change (spliceAll (splice values write.1 write.2) rest).length = _
      rw [induction, width]
      intro later member
      rw [width]
      exact within later (by simp [member])

theorem getElem?_spliceAll_outside {values : List α}
    {writes : List (Nat × List α)} {index : Nat}
    (within : ∀ write ∈ writes, Within values.length write)
    (outside : ∀ write ∈ writes,
      index < write.1 ∨ write.1 + write.2.length ≤ index) :
    (spliceAll values writes)[index]? = values[index]? := by
  induction writes generalizing values with
  | nil => rfl
  | cons write rest induction =>
      have fits := within write (by simp)
      have width := length_splice fits
      change (spliceAll (splice values write.1 write.2) rest)[index]? = _
      rw [induction, getElem?_splice fits, if_neg]
      · have := outside write (by simp)
        omega
      · intro later member
        rw [width]
        exact within later (by simp [member])
      · intro later member
        exact outside later (by simp [member])

theorem slice_spliceAll {values : List α} {writes : List (Nat × List α)}
    (within : ∀ write ∈ writes, Within values.length write)
    (apart : writes.Pairwise Apart) {write : Nat × List α}
    (member : write ∈ writes) :
    slice (spliceAll values writes) write.1 write.2.length = write.2 := by
  induction writes generalizing values with
  | nil => cases member
  | cons head rest induction =>
      have fits := within head (by simp)
      have width := length_splice fits
      have restWithin : ∀ later ∈ rest,
          Within (splice values head.1 head.2).length later := by
        intro later member
        rw [width]
        exact within later (by simp [member])
      obtain ⟨headApart, restApart⟩ := List.pairwise_cons.mp apart
      change slice (spliceAll (splice values head.1 head.2) rest) _ _ = _
      rcases List.mem_cons.mp member with rfl | later
      · -- The later writes leave the range of the first one alone.
        have kept : ∀ index : Nat, index < write.2.length →
            (spliceAll (splice values write.1 write.2) rest)[write.1 + index]? =
              (splice values write.1 write.2)[write.1 + index]? := by
          intro index inside
          apply getElem?_spliceAll_outside restWithin
          intro later member
          rcases headApart later member with before | after
          · exact .inl (by omega)
          · exact .inr (by omega)
        apply List.ext_getElem?
        intro index
        rw [getElem?_slice]
        by_cases inside : index < write.2.length
        · rw [if_pos inside, kept index inside, getElem?_splice fits,
            if_pos ⟨by omega, by omega⟩]
          congr 1
          omega
        · rw [if_neg inside, List.getElem?_eq_none (by omega)]
      · exact induction restWithin restApart later

theorem spliceAll_perm {values : List α} {writes reordered : List (Nat × List α)}
    (within : ∀ write ∈ writes, Within values.length write)
    (apart : writes.Pairwise Apart) (perm : reordered.Perm writes) :
    spliceAll values reordered = spliceAll values writes := by
  have within' : ∀ write ∈ reordered, Within values.length write :=
    fun write member => within write (perm.mem_iff.mp member)
  have apart' : reordered.Pairwise Apart :=
    (perm.pairwise_iff Apart.symm).mpr apart
  apply List.ext_getElem?
  intro index
  by_cases covered : ∃ write ∈ writes,
      write.1 ≤ index ∧ index < write.1 + write.2.length
  · obtain ⟨write, member, above, below⟩ := covered
    have first := slice_spliceAll within apart member
    have second := slice_spliceAll within' apart' (perm.mem_iff.mpr member)
    have same := congrArg (·[index - write.1]?) (second.trans first.symm)
    simp only [getElem?_slice] at same
    rw [if_pos (by omega), if_pos (by omega),
      Nat.add_sub_cancel' above] at same
    exact same
  · have outside : ∀ write ∈ writes,
        index < write.1 ∨ write.1 + write.2.length ≤ index := by
      intro write member
      rcases Nat.lt_or_ge index write.1 with before | above
      · exact .inl before
      · exact .inr (Nat.not_lt.mp fun below =>
          covered ⟨write, member, above, below⟩)
    rw [getElem?_spliceAll_outside within outside,
      getElem?_spliceAll_outside within'
        fun write member => outside write (perm.mem_iff.mp member)]

end ExtUnix.Data
