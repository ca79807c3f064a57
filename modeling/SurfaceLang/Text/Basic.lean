namespace SurfaceLang.Text

/-- Whether `n` lies in one of the ranges, which ascend and do not meet. -/
def inRanges (n : Nat) : List (Nat × Nat) → Bool
  | [] => false
  | (low, high) :: rest => if n < low then false else if n ≤ high then true else inRanges n rest

theorem exists_range_of_inRanges {n : Nat} {ranges : List (Nat × Nat)}
    (h : inRanges n ranges = true) : ∃ r ∈ ranges, r.1 ≤ n ∧ n ≤ r.2 := by
  induction ranges with
  | nil => cases h
  | cons r rest ih =>
    obtain ⟨low, high⟩ := r
    unfold inRanges at h
    split at h
    · cases h
    · split at h
      · exact ⟨(low, high), List.mem_cons_self, by dsimp only; omega⟩
      · obtain ⟨r, member, bounds⟩ := ih h
        exact ⟨r, List.mem_cons_of_mem _ member, bounds⟩

def blankRanges : List (Nat × Nat) :=
  [(0x9, 0xd), (0x20, 0x20), (0x85, 0x85), (0xa0, 0xa0), (0x1680, 0x1680), (0x2000, 0x200a),
   (0x2028, 0x2029), (0x202f, 0x202f), (0x205f, 0x205f), (0x3000, 0x3000)]

def isBlank (c : Char) : Bool :=
  inRanges c.toNat blankRanges

def trim (cs : List Char) : List Char :=
  ((cs.dropWhile isBlank).reverse.dropWhile isBlank).reverse

def split (separator : Char) : List Char → List (List Char)
  | [] => [[]]
  | c :: rest =>
    if c = separator then [] :: split separator rest
    else
      match split separator rest with
      | [] => [[c]]
      | part :: parts => (c :: part) :: parts

end SurfaceLang.Text
