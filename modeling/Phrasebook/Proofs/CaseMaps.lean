import Mathlib.Data.List.Basic
import Phrasebook.Text.Case

/-! Case mapping twice. The images in each table are out of reach of the same table, so that mapping
again changes nothing; the tables are compared as sets of code points, each held in one number. -/
namespace Phrasebook.Text

/-- A set of numbers as the number with these bits. -/
def maskOf (points : List Nat) : Nat := points.foldr (fun n mask => 1 <<< n ||| mask) 0

theorem maskBit {points : List Nat} {n : Nat} : (maskOf points).testBit n = true ↔ n ∈ points := by
  induction points with
  | nil => simp [maskOf]
  | cons first rest ih =>
    have step : maskOf (first :: rest) = 1 <<< first ||| maskOf rest := rfl
    rw [step, Nat.testBit_or, Bool.or_eq_true, ih, List.mem_cons, Nat.one_shiftLeft,
      Nat.testBit_two_pow, decide_eq_true_eq, eq_comm]

theorem masksApart {a b n : Nat} (apart : a &&& b = 0) (bit : a.testBit n = true) :
    b.testBit n = false := by
  have neither : (a &&& b).testBit n = false := by simp [apart]
  rwa [Nat.testBit_and, bit, Bool.true_and] at neither

def runMask (step : Nat) : Nat → Nat → Nat
  | _, 0 => 0
  | first, count + 1 => 1 <<< first ||| runMask step (first + step) count

theorem runMaskBit {step first count i : Nat} (inside : i < count) :
    (runMask step first count).testBit (first + step * i) = true := by
  induction count generalizing first i with
  | zero => omega
  | succ count ih =>
    rw [runMask, Nat.testBit_or, Bool.or_eq_true]
    cases i with
    | zero => exact .inl (by simp [Nat.one_shiftLeft])
    | succ i =>
      have later := @ih (first + step) i (by omega)
      exact .inr (by rwa [Nat.add_assoc, Nat.add_comm step, ← Nat.mul_succ] at later)

def movedMask (mask : Nat) : Int → Nat
  | .ofNat k => mask <<< k
  | .negSucc k => mask >>> (k + 1)

theorem movedBit {mask n : Nat} {offset : Int} (inside : mask.testBit n = true)
    (grounded : 0 ≤ n + offset) : (movedMask mask offset).testBit (n + offset).toNat = true := by
  cases offset with
  | ofNat k =>
    have target : ((n : Int) + Int.ofNat k).toNat = n + k := by
      rw [Int.ofNat_eq_natCast]
      omega
    rw [target, movedMask, Nat.testBit_shiftLeft, Nat.add_sub_cancel, inside]
    simp
  | negSucc k =>
    have source : k + 1 + ((n : Int) + Int.negSucc k).toNat = n := by omega
    rw [movedMask, Nat.testBit_shiftRight, source, inside]

def pointMask : List (Nat × Nat × Nat × Int) → Nat
  | [] => 0
  | (first, last, step, _) :: rest => runMask step first ((last - first) / step + 1) ||| pointMask rest

/-- Where runs move what stands outside of the set `skip`. -/
def imageMask (skip : Nat) : List (Nat × Nat × Nat × Int) → Nat
  | [] => 0
  | (first, last, step, offset) :: rest =>
    let points := runMask step first ((last - first) / step + 1)
    movedMask (points ^^^ (points &&& skip)) offset ||| imageMask skip rest

theorem runMove {skip n : Nat} {runs : List (Nat × Nat × Nat × Int)}
    (grounded : ∀ run ∈ runs, 0 ≤ (run.1 : Int) + run.2.2.2) (kept : skip.testBit n = false) :
    runImage n runs = n ∨
      (pointMask runs).testBit n = true ∧ (imageMask skip runs).testBit (runImage n runs) = true := by
  induction runs with
  | nil => exact .inl rfl
  | cons run rest ih =>
    obtain ⟨first, last, step, offset⟩ := run
    obtain ⟨ground, later⟩ := List.forall_mem_cons.mp grounded
    simp only [runImage, pointMask, imageMask, Nat.testBit_or, Bool.or_eq_true]
    split
    · rename_i inside
      simp only [Bool.and_eq_true, decide_eq_true_eq] at inside
      obtain ⟨⟨low, high⟩, aligned⟩ := inside
      have point : first + step * ((n - first) / step) = n := by
        have := Nat.div_add_mod (n - first) step
        omega
      have bit : (runMask step first ((last - first) / step + 1)).testBit n = true := by
        have reached := @runMaskBit step first ((last - first) / step + 1) ((n - first) / step)
          (Nat.lt_succ_of_le (Nat.div_le_div_right (by omega)))
        rwa [point] at reached
      refine .inr ⟨.inl bit, .inl (movedBit ?_ (by dsimp only at ground; omega))⟩
      simp [bit, kept]
    · exact (ih later).imp_right fun ⟨point, image⟩ => ⟨.inr point, .inr image⟩

def below (bound : Nat) : Nat := 1 <<< bound - 1

theorem belowBit {bound n : Nat} : (below bound).testBit n = decide (n < bound) := by
  rw [below, Nat.one_shiftLeft, Nat.testBit_two_pow_sub_one]

def imagePoints : Nat :=
  (below 0x110000 ^^^ (below 0x800 <<< 0xd800)) ^^^ maskOf (['-', '_'].map Char.toNat)

theorem imagePoint {n : Nat} (bit : imagePoints.testBit n = true) :
    n.isValidChar ∧ n ∉ ['-', '_'].map Char.toNat := by
  rw [imagePoints, Nat.testBit_xor, Nat.testBit_xor, Nat.testBit_shiftLeft,
    belowBit, belowBit] at bit
  by_cases mark : n ∈ ['-', '_'].map Char.toNat
  · rw [maskBit.mpr mark] at bit
    have low : n = 45 ∨ n = 95 := by simpa using mark
    have small : n < 0x110000 ∧ ¬0xd800 ≤ n := by omega
    simp [small] at bit
  · refine ⟨?_, mark⟩
    rw [Bool.eq_false_iff.mpr (mt maskBit.mp mark), Bool.xor_false] at bit
    by_cases high : n < 0x110000
    · by_cases surrogate : 0xd800 ≤ n ∧ n - 0xd800 < 0x800
      · simp [high, surrogate] at bit
      · unfold Nat.isValidChar
        omega
    · have past : ¬n - 0xd800 < 0x800 := by omega
      simp [high, past] at bit

def pointsOf (runs : List (Nat × Nat × Nat × Int)) (strings : List (Nat × List Nat)) : Nat :=
  pointMask runs ||| maskOf (strings.map Prod.fst)

def imagesOf (runs : List (Nat × Nat × Nat × Int)) (strings : List (Nat × List Nat)) : Nat :=
  imageMask 0 runs ||| maskOf (strings.flatMap Prod.snd)

structure SettledTable (runs : List (Nat × Nat × Nat × Int)) (strings : List (Nat × List Nat)) :
    Prop where
  grounded : ∀ run ∈ runs, 0 ≤ (run.1 : Int) + run.2.2.2
  apart : imagesOf runs strings &&& pointsOf runs strings = 0
  within : imagesOf runs strings &&& imagePoints = imagesOf runs strings
  filled : ∀ entry ∈ strings, entry.2 ≠ []

instance (runs : List (Nat × Nat × Nat × Int)) (strings : List (Nat × List Nat)) :
    Decidable (SettledTable runs strings) :=
  decidable_of_iff
    ((∀ run ∈ runs, 0 ≤ (run.1 : Int) + run.2.2.2) ∧
      imagesOf runs strings &&& pointsOf runs strings = 0 ∧
      imagesOf runs strings &&& imagePoints = imagesOf runs strings ∧
      ∀ entry ∈ strings, entry.2 ≠ [])
    ⟨fun ⟨grounded, apart, within, filled⟩ => ⟨grounded, apart, within, filled⟩,
      fun table => ⟨table.grounded, table.apart, table.within, table.filled⟩⟩

section

variable {runs : List (Nat × Nat × Nat × Int)} {strings : List (Nat × List Nat)}

theorem SettledTable.allowed (table : SettledTable runs strings) {code : Nat}
    (bit : (imagesOf runs strings).testBit code = true) :
    code.isValidChar ∧ code ∉ ['-', '_'].map Char.toNat := by
  rw [← table.within, Nat.testBit_and, Bool.and_eq_true] at bit
  exact imagePoint bit.2

theorem imageMove (table : SettledTable runs strings) (c : Char) :
    image runs strings c = [c] ∨ ∀ d ∈ image runs strings c,
      ∃ code, (imagesOf runs strings).testBit code = true ∧ d = Char.ofNat code := by
  unfold image imagesOf
  simp only [Nat.testBit_or, Bool.or_eq_true]
  split
  · rename_i codes found
    refine .inr fun d mem => ?_
    obtain ⟨code, inside, rfl⟩ := List.mem_map.mp mem
    obtain ⟨before, after, listed, -⟩ := List.lookup_eq_some_iff.mp found
    refine ⟨code, .inr (maskBit.mpr (List.mem_flatMap.mpr ⟨(c.toNat, codes), ?_, inside⟩)), rfl⟩
    simp [listed]
  · rcases runMove table.grounded (Nat.zero_testBit c.toNat) with fixed | ⟨-, moved⟩
    · exact .inl (by rw [fixed, Char.ofNat_toNat])
    · refine .inr fun d mem => ?_
      obtain rfl := List.mem_singleton.mp mem
      exact ⟨_, .inl moved, rfl⟩

theorem imageStays (table : SettledTable runs strings) {c : Char}
    (unlisted : (pointsOf runs strings).testBit c.toNat = false) : image runs strings c = [c] := by
  rw [pointsOf, Nat.testBit_or, Bool.or_eq_false_iff] at unlisted
  have noString : strings.lookup c.toNat = none := by
    refine List.lookup_eq_none_iff.mpr fun entry mem => bne_iff_ne.mpr fun same => ?_
    have listed := maskBit.mpr (List.mem_map.mpr ⟨entry, mem, same.symm⟩)
    exact absurd listed (by simp [unlisted.2])
  rcases runMove table.grounded (Nat.zero_testBit c.toNat) with fixed | ⟨moved, -⟩
  · simp [image, noString, fixed]
  · exact absurd moved (by simp [unlisted.1])

theorem codeRead {code : Nat} (valid : code.isValidChar) : (Char.ofNat code).toNat = code := by
  rw [Char.ofNat, dif_pos valid]
  rfl

theorem imageSettled (table : SettledTable runs strings) {c d : Char}
    (mem : d ∈ image runs strings c) : image runs strings d = [d] := by
  rcases imageMove table c with fixed | moved
  · rw [fixed] at mem
    rwa [List.mem_singleton.mp mem]
  · obtain ⟨code, listed, rfl⟩ := moved d mem
    -- A character among the images is not among the points.
    refine imageStays table ?_
    rw [codeRead (table.allowed listed).1]
    exact masksApart table.apart listed

theorem imageFilled (table : SettledTable runs strings) (c : Char) : image runs strings c ≠ [] := by
  unfold image
  split
  · rename_i codes found
    obtain ⟨before, after, listed, -⟩ := List.lookup_eq_some_iff.mp found
    simpa using table.filled (c.toNat, codes) (by simp [listed])
  · simp

theorem imagePlain (table : SettledTable runs strings) {c d : Char} (mem : d ∈ image runs strings c)
    (mark : d ∈ ['-', '_']) : d = c := by
  rcases imageMove table c with fixed | moved
  · rw [fixed] at mem
    exact List.mem_singleton.mp mem
  · obtain ⟨code, listed, rfl⟩ := moved d mem
    obtain ⟨valid, other⟩ := table.allowed listed
    rw [← codeRead valid] at other
    exact absurd (List.mem_map_of_mem mark) other

end

theorem lowerTable : SettledTable CaseTable.lowerRuns CaseTable.lowerStrings := by
  decide +kernel

theorem upperTable : SettledTable CaseTable.upperRuns CaseTable.upperStrings := by
  decide +kernel

def titlePoints : List Nat := CaseTable.titleStrings.map Prod.fst

structure SettledTitles : Prop where
  apart : imageMask (maskOf titlePoints) CaseTable.upperRuns &&& maskOf titlePoints = 0
  single : ∀ entry ∈ CaseTable.titleStrings, entry.2.length = 1 →
    ∀ code ∈ entry.2, CaseTable.titleStrings.lookup code = some [code]
  allowed : ∀ entry ∈ CaseTable.titleStrings, entry.2 ≠ [] ∧
    ∀ code ∈ entry.2, code.isValidChar ∧ code ∉ ['-', '_'].map Char.toNat
  longer : ∀ entry ∈ CaseTable.upperStrings, entry.2.length ≠ 1

instance : Decidable SettledTitles :=
  decidable_of_iff
    (imageMask (maskOf titlePoints) CaseTable.upperRuns &&& maskOf titlePoints = 0 ∧
      (∀ entry ∈ CaseTable.titleStrings, entry.2.length = 1 →
        ∀ code ∈ entry.2, CaseTable.titleStrings.lookup code = some [code]) ∧
      (∀ entry ∈ CaseTable.titleStrings, entry.2 ≠ [] ∧
        ∀ code ∈ entry.2, code.isValidChar ∧ code ∉ ['-', '_'].map Char.toNat) ∧
      ∀ entry ∈ CaseTable.upperStrings, entry.2.length ≠ 1)
    ⟨fun ⟨apart, single, allowed, longer⟩ => ⟨apart, single, allowed, longer⟩,
      fun titles => ⟨titles.apart, titles.single, titles.allowed, titles.longer⟩⟩

theorem titleTable : SettledTitles := by
  decide +kernel

theorem titleLookup {n : Nat} : CaseTable.titleStrings.lookup n = none ↔ n ∉ titlePoints := by
  rw [List.lookup_eq_none_iff]
  constructor
  · intro absent mem
    obtain ⟨entry, inside, same⟩ := List.mem_map.mp mem
    exact bne_iff_ne.mp (absent entry inside) same.symm
  · intro unlisted entry inside
    exact bne_iff_ne.mpr fun same => unlisted (List.mem_map.mpr ⟨entry, inside, same.symm⟩)

theorem titleUnlisted {c : Char} (unlisted : c.toNat ∉ titlePoints) : titleChar c = upperChar c := by
  simp [titleChar, titleLookup.mpr unlisted]

theorem upperSingle {c d : Char} (unlisted : c.toNat ∉ titlePoints) (single : upperChar c = [d]) :
    d = c ∨ (imageMask (maskOf titlePoints) CaseTable.upperRuns).testBit d.toNat = true := by
  have kept : (maskOf titlePoints).testBit c.toNat = false :=
    Bool.eq_false_iff.mpr (mt maskBit.mp unlisted)
  unfold upperChar image at single
  split at single
  · rename_i codes found
    obtain ⟨before, after, listed, -⟩ := List.lookup_eq_some_iff.mp found
    have size := congrArg List.length single
    rw [List.length_map, List.length_singleton] at size
    exact absurd size (titleTable.longer (c.toNat, codes) (by simp [listed]))
  · obtain rfl := List.singleton_inj.mp single
    rcases runMove upperTable.grounded (Nat.zero_testBit c.toNat) with fixed | ⟨-, moved⟩
    · exact .inl (by rw [fixed, Char.ofNat_toNat])
    · -- Among all images it is a character's, and among those of untitled characters it is no title.
      have valid : (runImage c.toNat CaseTable.upperRuns).isValidChar :=
        (upperTable.allowed (by rw [imagesOf, Nat.testBit_or, moved, Bool.true_or])).1
      rcases runMove upperTable.grounded kept with fixed | ⟨-, moved⟩
      · exact .inl (by rw [fixed, Char.ofNat_toNat])
      · exact .inr (by rwa [codeRead valid])

theorem titleSettled {c d : Char} (single : titleChar c = [d]) : titleChar d = [d] := by
  by_cases listed : c.toNat ∈ titlePoints
  · unfold titleChar at single
    split at single
    · rename_i codes found
      obtain ⟨code, rfl, rfl⟩ := List.map_eq_singleton_iff.mp single
      obtain ⟨before, after, listed, -⟩ := List.lookup_eq_some_iff.mp found
      have mem : (c.toNat, [code]) ∈ CaseTable.titleStrings := by simp [listed]
      have inside : code ∈ [code] := List.mem_singleton.mpr rfl
      have itself := titleTable.single _ mem rfl code inside
      obtain ⟨valid, -⟩ := (titleTable.allowed _ mem).2 code inside
      simp [titleChar, codeRead valid, itself]
    · rename_i absent
      exact absurd listed (titleLookup.mp absent)
  · rw [titleUnlisted listed] at single
    rcases upperSingle listed single with rfl | moved
    · rw [titleUnlisted listed, single]
    · have unlisted : d.toNat ∉ titlePoints :=
        mt maskBit.mpr (Bool.eq_false_iff.mp (masksApart titleTable.apart moved))
      rw [titleUnlisted unlisted]
      have mem : d ∈ upperChar c := by simp [single]
      exact imageSettled upperTable mem

theorem titleFilled (c : Char) : titleChar c ≠ [] := by
  unfold titleChar
  split
  · rename_i codes found
    obtain ⟨before, after, listed, -⟩ := List.lookup_eq_some_iff.mp found
    simpa using (titleTable.allowed (c.toNat, codes) (by simp [listed])).1
  · exact imageFilled upperTable c

theorem titlePlain {c d : Char} (mem : d ∈ titleChar c) (mark : d ∈ ['-', '_']) : d = c := by
  unfold titleChar at mem
  split at mem
  · rename_i codes found
    obtain ⟨code, inside, rfl⟩ := List.mem_map.mp mem
    obtain ⟨before, after, listed, -⟩ := List.lookup_eq_some_iff.mp found
    obtain ⟨valid, other⟩ := (titleTable.allowed (c.toNat, codes) (by simp [listed])).2 code inside
    rw [← codeRead valid] at other
    exact absurd (List.mem_map_of_mem mark) other
  · exact imagePlain upperTable mem mark

def isLow (c : Char) : Prop := c ≠ 'Σ' ∧ lowerChar c = [c]

theorem lowerLow {c d : Char} (mem : d ∈ lowerChar c) : isLow d := by
  have fixed : lowerChar d = [d] := imageSettled lowerTable mem
  refine ⟨?_, fixed⟩
  rintro rfl
  exact absurd fixed (by decide)

theorem sigmasLow : isLow 'σ' ∧ isLow 'ς' :=
  ⟨⟨by decide, by decide⟩, ⟨by decide, by decide⟩⟩

theorem lowerAfterLow {before cs : List Char} : ∀ d ∈ lowerAfter before cs, isLow d := by
  induction cs generalizing before with
  | nil => simp [lowerAfter]
  | cons c rest ih =>
    intro d mem
    rcases List.mem_append.mp mem with head | tail
    · split at head
      · obtain rfl := List.mem_singleton.mp head
        split
        · exact sigmasLow.2
        · exact sigmasLow.1
      · exact lowerLow head
    · exact ih d tail

theorem lowStays {before cs : List Char} (low : ∀ c ∈ cs, isLow c) : lowerAfter before cs = cs := by
  induction cs generalizing before with
  | nil => rfl
  | cons c rest ih =>
    obtain ⟨⟨other, fixed⟩, later⟩ := List.forall_mem_cons.mp low
    simp [lowerAfter, other, fixed, ih later]

theorem lowerAfterPlain {before cs : List Char} {d : Char} (mem : d ∈ lowerAfter before cs)
    (mark : d ∈ ['-', '_']) : d ∈ cs := by
  induction cs generalizing before with
  | nil => simp [lowerAfter] at mem
  | cons c rest ih =>
    rcases List.mem_append.mp mem with head | tail
    · split at head
      · obtain rfl := List.mem_singleton.mp head
        split at mark <;> simp at mark
      · rw [imagePlain lowerTable head mark]
        exact List.mem_cons_self
    · exact List.mem_cons_of_mem _ (ih tail)

theorem lowerAfterLength (before cs : List Char) : cs.length ≤ (lowerAfter before cs).length := by
  induction cs generalizing before with
  | nil => simp
  | cons c rest ih =>
    have later := ih (c :: before)
    have head : 0 < (if c = 'Σ' then [if meetsCased before && !meetsCased rest then 'ς' else 'σ']
        else lowerChar c).length := by
      split
      · simp
      · exact List.length_pos_iff.mpr (imageFilled lowerTable c)
    simp only [lowerAfter, List.length_append, List.length_cons]
    omega

theorem upperCharsSettled (cs : List Char) : upperChars (upperChars cs) = upperChars cs := by
  have fixed : ∀ d ∈ upperChars cs, upperChar d = [d] := by
    intro d mem
    obtain ⟨c, -, inside⟩ := List.mem_flatMap.mp mem
    exact imageSettled upperTable inside
  calc upperChars (upperChars cs) = (upperChars cs).flatMap fun d => [d] :=
        List.flatMap_congr fixed
    _ = upperChars cs := by simp

theorem upperCharsPlain {cs : List Char} {d : Char} (mem : d ∈ upperChars cs)
    (mark : d ∈ ['-', '_']) : d ∈ cs := by
  obtain ⟨c, inside, image⟩ := List.mem_flatMap.mp mem
  rwa [imagePlain upperTable image mark]

theorem upperCharsLength (cs : List Char) : cs.length ≤ (upperChars cs).length := by
  induction cs with
  | nil => simp
  | cons c rest ih =>
    have head : 0 < (upperChar c).length := List.length_pos_iff.mpr (imageFilled upperTable c)
    simp only [upperChars, List.flatMap_cons, List.length_append, List.length_cons] at ih ⊢
    omega

theorem capitalizePlain {cs : List Char} {d : Char} (mem : d ∈ capitalizeChars cs)
    (mark : d ∈ ['-', '_']) : d ∈ cs := by
  cases cs with
  | nil => exact mem
  | cons c rest =>
    rcases List.mem_append.mp mem with head | tail
    · rw [titlePlain head mark]
      exact List.mem_cons_self
    · exact List.mem_cons_of_mem _ (lowerAfterPlain tail mark)

theorem capitalizeLength (cs : List Char) : cs.length ≤ (capitalizeChars cs).length := by
  cases cs with
  | nil => simp
  | cons c rest =>
    have head := List.length_pos_iff.mpr (titleFilled c)
    have later := lowerAfterLength [c] rest
    simp only [capitalizeChars, List.length_append, List.length_cons]
    omega

theorem capitalizeSingle {c : Char} {rest : List Char}
    (same : (capitalizeChars (c :: rest)).length = (c :: rest).length) : ∃ d, titleChar c = [d] := by
  have head := List.length_pos_iff.mpr (titleFilled c)
  have later := lowerAfterLength [c] rest
  simp only [capitalizeChars, List.length_append, List.length_cons] at same
  exact List.length_eq_one_iff.mp (by omega)

theorem capitalizeSettled {cs : List Char} (same : (capitalizeChars cs).length = cs.length) :
    capitalizeChars (capitalizeChars cs) = capitalizeChars cs := by
  cases cs with
  | nil => rfl
  | cons c rest =>
    obtain ⟨d, single⟩ := capitalizeSingle same
    simp only [capitalizeChars, single, List.cons_append, List.nil_append, titleSettled single]
    rw [lowStays lowerAfterLow]

theorem capitalizedLow {c : Char} {rest : List Char}
    (same : capitalizeChars (c :: rest) = c :: rest) : ∀ d ∈ rest, isLow d := by
  obtain ⟨d, single⟩ := capitalizeSingle (congrArg List.length same)
  simp only [capitalizeChars, single, List.cons_append, List.nil_append, List.cons.injEq] at same
  rw [← same.2]
  exact lowerAfterLow

end Phrasebook.Text
