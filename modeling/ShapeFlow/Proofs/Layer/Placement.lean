import Mathlib.Data.Set.Card
import ShapeFlow.Layer.Apply
import ShapeFlow.Layer.Construct
import ShapeFlow.Proofs.Call.KnownSizes
import ShapeFlow.Proofs.Arithmetic
import ShapeFlow.Proofs.Layer.Window
/-!
Where windows lie. On a known size the output size is the number of windows that have a place, and
none of those of an average pooling lies in the padding alone.
-/
namespace ShapeFlow

namespace Window
variable {w : Window} {n m : Int} {i : Nat}

/-- The window `i` steps after the first one has a place on an input of size `n`: it ends within the
padded input. With `ceil` it need not, as long as the window before it ends short of the end and it
starts before the padding behind the input. -/
def Placed (w : Window) (n : Int) (i : Nat) : Prop :=
  if w.ceil then (i - 1) * w.stride + w.reach + 1 < n + 2 * w.padding ∧ i * w.stride < n + w.padding
  else i * w.stride + w.reach + 1 ≤ n + 2 * w.padding

theorem InWords.lt_count_iff (words : w.InWords) (stride : 0 < w.stride) (i : Int) :
    i < w.count n ↔ if w.ceil
      then (i - 1) * w.stride + w.reach + 1 < n + 2 * w.padding
      else i * w.stride + w.reach + 1 ≤ n + 2 * w.padding := by
  have positive : (0 : Int) < w.stride := by omega
  rw [count, words.offset_eq, Expr.wrap_small words.stride, Int.lt_add_one_iff]
  cases w.ceil with
  | true =>
    simp only [↓reduceIte]
    rw [Division.le_ceil_iff positive]
    omega
  | false =>
    simp only [Bool.false_eq_true, ↓reduceIte]
    rw [Division.le_floor_iff positive]
    omega

theorem InWords.dropOverhang_value (words : w.InWords) (up : w.ceil = true) :
    w.dropOverhang (.value n) m = if n + w.padding ≤ (m - 1) * w.stride then m - 1 else m := by
  have padding := words.padding
  simp only [dropOverhang, up]
  rw [Expr.wrap_small words.stride, Expr.wrap_small (by omega)]

/-- The window before the last one that is counted starts before the padding behind the input, so
to drop the last one is enough. -/
theorem InWords.last_but_one (words : w.InWords) (stride : 0 < w.stride) (up : w.ceil = true)
    (narrow : w.padding ≤ w.reach) : (w.count n - 2) * w.stride < n + w.padding := by
  have counted := (words.lt_count_iff (n := n) stride (w.count n - 1)).mp (by omega)
  simp only [up, ↓reduceIte] at counted
  have same : w.count n - 1 - 1 = w.count n - 2 := by omega
  rw [same] at counted
  omega

/-- The windows that have a place are as many as there are left after an overhang is dropped. -/
theorem InWords.placed_iff (words : w.InWords) (stride : 0 < w.stride)
    (narrow : w.ceil = true → w.padding ≤ w.reach) :
    w.Placed n i ↔ i < w.dropOverhang (.value n) (w.count n) := by
  have counted := words.lt_count_iff (n := n) stride i
  unfold Placed
  cases up : w.ceil with
  | false =>
    rw [dropOverhang_floor up]
    simpa [up] using counted.symm
  | true =>
    simp only [up, ↓reduceIte] at counted ⊢
    rw [← counted, words.dropOverhang_value up]
    have positive : (0 : Int) < w.stride := by omega
    -- Starts grow with the steps, so a window starts before the padding if a later one does.
    have starts (j : Int) (before : (i : Int) ≤ j) : i * (w.stride : Int) ≤ j * w.stride :=
      Int.mul_le_mul_of_nonneg_right before (by omega)
    split
    · rename_i overhang
      constructor
      · rintro ⟨-, start⟩
        by_contra beyond
        have last : w.count n - 1 ≤ i := by omega
        have := Int.mul_le_mul_of_nonneg_right last (Int.le_of_lt positive)
        omega
      · intro inside
        have := starts (w.count n - 2) (by omega)
        have := words.last_but_one (n := n) stride up (narrow up)
        omega
    · constructor
      · exact fun placed => placed.1
      · intro inside
        have := starts (w.count n - 1) (by omega)
        omega

theorem padding_le_reach (dilation : 0 < w.dilation) (half : w.padding ≤ w.kernel / 2) :
    w.padding ≤ w.reach := by
  have spread : 1 * (w.kernel - 1) ≤ w.dilation * (w.kernel - 1) :=
    Nat.mul_le_mul_right _ dilation
  unfold reach
  omega

/-- On a known size the output size is the number of windows that have a place, and a size with
room for none is refused. -/
theorem outputSize_counts_placed (words : w.InWords) (stride : 0 < w.stride)
    (dilation : 0 < w.dilation) (half : w.ceil = true → w.padding ≤ w.kernel / 2) (n : Int) :
    ∃ m : Nat, {i | w.Placed n i}.encard = m ∧
      (m ≠ 0 → w.outputSize (.value n) = .ok (.value m)) ∧
      ((∃ why, w.outputSize (.value n) = .error why) ↔ m = 0) ∧
      (w.ceil = true → (w.count n - 2) * w.stride < n + w.padding) := by
  have narrow (up : w.ceil = true) := padding_le_reach dilation (half up)
  have size := outputSize_value (n := n) (Nat.ne_of_gt stride) (words.strideFits)
  generalize left : w.dropOverhang (.value n) (w.count n) = q at size
  have placed : {i | w.Placed n i} = Finset.range q.toNat := by
    ext i
    rw [Set.mem_ofPred_eq, words.placed_iff stride narrow, left, Finset.mem_coe, Finset.mem_range]
    omega
  refine ⟨q.toNat, ?_, ?_, ?_, fun up => words.last_but_one stride up (narrow up)⟩
  · rw [placed, Set.encard_coe_eq_coe_finsetCard, Finset.card_range]
  · intro some
    rw [size, if_neg (by omega), Int.toNat_of_nonneg (by omega)]
  · rw [size]
    split
    · exact ⟨fun _ => by omega, fun _ => ⟨_, rfl⟩⟩
    · exact ⟨nofun, fun none => by omega⟩

theorem outputSize_counts_placed_at_overhang :
    let w : Window := ⟨2, 2, 1, 1, true⟩
    w.InWords ∧ 0 < w.stride ∧ 0 < w.dilation ∧ w.padding ≤ w.kernel / 2 ∧
      w.count 5 = 4 ∧ w.outputSize (.value 5) = .ok (.value 3) ∧ {i | w.Placed 5 i}.encard = 3 := by
  intro w
  have words : w.InWords := ⟨by decide, by decide, by decide⟩
  have size : w.outputSize (.value 5) = .ok (.value 3) := by decide +kernel
  obtain ⟨m, counted, answers, refused, -⟩ :=
    outputSize_counts_placed words (by decide) (by decide) (fun _ => by decide) 5
  have some : m ≠ 0 := by
    intro none
    obtain ⟨why, refusal⟩ := refused.mpr none
    cases size.symm.trans refusal
  have three : (3 : Int) = m := by simpa [size] using answers some
  obtain rfl : m = 3 := by omega
  exact ⟨words, by decide, by decide, by decide, by decide, size, counted⟩

/-- A window that has a place starts before the padding behind the input. -/
theorem Placed.start_lt (placed : w.Placed n i) (narrow : w.padding ≤ w.reach) :
    i * w.stride < n + w.padding := by
  unfold Placed at placed
  split at placed
  · exact placed.2
  · omega

structure Averaging (w : Window) : Prop where
  words : w.InWords
  kernel : 0 < w.kernel
  stride : 0 < w.stride
  dilation : w.dilation = 1
  half : w.padding ≤ w.kernel / 2

theorem averaging_of_words {kernel stride padding : Nat} (up : Bool) (positive : 0 < kernel)
    (steps : 0 < stride) (half : padding ≤ kernel / 2) (wordKernel : kernel ≤ Word.greatest)
    (wordStride : stride ≤ Word.greatest) : Averaging ⟨kernel, stride, 1, padding, up⟩ := by
  refine ⟨⟨wordStride, ?_, ?_⟩, positive, steps, rfl, half⟩
  · show ((2 * padding : Nat) : Int) ≤ Word.greatest
    omega
  · show ((1 * (kernel - 1) : Nat) : Int) ≤ Word.greatest
    omega

/-- A window of an average pooling takes in a place of the input itself. -/
theorem Averaging.meets_input (averaging : w.Averaging) (positive : 1 ≤ n)
    (answer : w.outputSize (.value n) = .ok (.value m)) (inside : i < m) :
    ∃ x : Int, (i * w.stride ≤ x ∧ x ≤ i * w.stride + w.kernel - 1) ∧
      w.padding ≤ x ∧ x ≤ w.padding + n - 1 := by
  obtain ⟨words, kernel, stride, dilation, half⟩ := averaging
  have narrow := padding_le_reach (by omega) half
  have size := outputSize_value (n := n) (Nat.ne_of_gt stride) (words.strideFits)
  rw [answer] at size
  split at size
  · cases size
  · obtain rfl := Expr.value.inj (Except.ok.inj size)
    have start := ((words.placed_iff stride fun _ => narrow).mpr inside).start_lt narrow
    have reach : w.reach = w.kernel - 1 := by rw [Window.reach, dilation, Nat.one_mul]
    refine ⟨max (i * w.stride) w.padding, ⟨Int.le_max_left _ _, ?_⟩, Int.le_max_right _ _, ?_⟩
    · have := Int.mul_nonneg (Int.natCast_nonneg i) (Int.natCast_nonneg w.stride)
      omega
    · omega

end Window

namespace Layer
variable {b : BoundArgs} {p : AveragePooling} {w : Window} {n m : Int} {i : Nat}

theorem averaging_of_built (built : LayerClass.avgPool2d.build b = .ok (.avgPool2d p)) :
    p.windows.1.Averaging ∧ p.windows.2.Averaging := by
  simp only [LayerClass.build, bind_eq_ok, pure_eq_ok, avgPool2d.injEq] at built
  obtain ⟨_, read, rfl⟩ := built
  have reads := BoundArgs.averagePooling_ok read
  have kernel := BoundArgs.mandatory_extent_positive reads.kernel
  have stride := BoundArgs.orDefault_extent_positive kernel reads.stride
  obtain ⟨wordKernel, wordStride⟩ := BoundArgs.pooling_words reads
  exact ⟨Window.averaging_of_words _ kernel.1 stride.1 reads.height wordKernel.1 wordStride.1,
    Window.averaging_of_words _ kernel.2 stride.2 reads.width wordKernel.2 wordStride.2⟩

/-- No window of an average pooling that is built lies in the padding alone. -/
theorem average_windows_meet_input (built : LayerClass.avgPool2d.build b = .ok (.avgPool2d p))
    (window : w = p.windows.1 ∨ w = p.windows.2) (positive : 1 ≤ n)
    (answer : w.outputSize (.value n) = .ok (.value m)) (inside : i < m) :
    ∃ x : Int, (i * w.stride ≤ x ∧ x ≤ i * w.stride + w.kernel - 1) ∧
      w.padding ≤ x ∧ x ≤ w.padding + n - 1 := by
  obtain ⟨height, width⟩ := averaging_of_built built
  rcases window with rfl | rfl
  · exact height.meets_input positive answer inside
  · exact width.meets_input positive answer inside

theorem average_windows_meet_input_at_last_window :
    let b : BoundArgs := ⟨"AvgPool2d", [("kernel_size", .int 2), ("stride", .int 3),
      ("padding", .int 1), ("ceil_mode", .bool true)], []⟩
    let p : AveragePooling := ⟨.square 2, .square 3, .square 1, true, true, none⟩
    let w : Window := p.windows.1
    LayerClass.avgPool2d.build b = .ok (.avgPool2d p) ∧ w.outputSize (.value 6) = .ok (.value 3) ∧
      ∃ x : Int, (2 * 3 ≤ x ∧ x ≤ 2 * 3 + 2 - 1) ∧ 1 ≤ x ∧ x ≤ 1 + 6 - 1 := by
  intro b p w
  have built : LayerClass.avgPool2d.build b = .ok (.avgPool2d p) := by with_unfolding_all rfl
  have answer : w.outputSize (.value 6) = .ok (.value 3) := by decide +kernel
  exact ⟨built, answer, average_windows_meet_input (i := 2) built (.inl rfl) (by decide) answer
    (by decide)⟩

end Layer
end ShapeFlow
