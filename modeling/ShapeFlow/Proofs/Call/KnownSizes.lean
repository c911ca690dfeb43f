import ShapeFlow.Layer.Construct
import ShapeFlow.Proofs.Expr.Evaluation
import ShapeFlow.Proofs.Arithmetic
/-!
What constructors read from arguments. Every count is one that a signed word holds, and a size is a
positive integer if no argument is symbolic.
-/
namespace ShapeFlow
variable {ε α β : Type} {f : α → Except ε β} {n : Nat}

theorem mapM_eq_ok {xs : List α} {ys : List β} :
    xs.mapM f = .ok ys ↔ xs.map f = ys.map .ok := by
  induction xs generalizing ys with
  | nil => cases ys <;> simp [pure, Except.pure]
  | cons x xs ih =>
    simp only [List.mapM_cons, bind_eq_ok, pure_eq_ok, ih]
    cases ys with
    | nil => simp
    | cons y ys => simp

theorem vector_mapM_eq_ok {xs : Vector α n} {ys : Vector β n} :
    xs.mapM f = .ok ys ↔ xs.toList.map f = ys.toList.map .ok := by
  have arrays : (xs.mapM f).map Vector.toArray = (xs.toList.mapM f).map List.toArray := by
    change Vector.toArray <$> xs.mapM f = List.toArray <$> xs.toList.mapM f
    rw [Vector.toArray_mapM, Array.mapM_eq_mapM_toList]
    rfl
  rw [← mapM_eq_ok]
  constructor
  · intro read
    rw [read] at arrays
    obtain ⟨zs, lists, same⟩ := map_eq_ok.mp arrays.symm
    rw [lists, ← ys.toList_toArray, ← same]
  · intro read
    rw [read] at arrays
    obtain ⟨zs, vectors, same⟩ := map_eq_ok.mp arrays
    rw [vectors, Vector.toArray_inj.mp same]

theorem mem_of_map {xs : List α} {ys : List β} (read : xs.map f = ys.map .ok) :
    ∀ y ∈ ys, ∃ x ∈ xs, f x = .ok y := by
  intro y member
  rw [← List.mem_map, read]
  exact List.mem_map_of_mem member

theorem mem_of_vector_mapM {xs : Vector α n} {ys : Vector β n} (read : xs.mapM f = .ok ys) :
    ∀ y ∈ ys, ∃ x ∈ xs, f x = .ok y := by
  simpa using mem_of_map (vector_mapM_eq_ok.mp read)

def Extent.IsWord (e : Extent) : Prop := e.height ≤ Word.greatest ∧ e.width ≤ Word.greatest

def Extent.Positive (e : Extent) : Prop := 0 < e.height ∧ 0 < e.width

def Border.IsWord (b : Border) : Prop := ∀ n ∈ b.toList, (n : Int) ≤ Word.greatest

def Expr.Positive (e : Expr) : Prop := ∃ n : Int, e = .value n ∧ 1 ≤ n

theorem Expr.wrap_word (w : Int64) : wrap w.toInt = w.toInt :=
  Word.bmod_of_within (Word.least_le w) (Word.le_greatest w)

namespace Argument

mutual

@[simp] def leaves : Argument → List Argument
  | .tuple items => leavesOf items
  | a => [a]

@[simp] def leavesOf : List Argument → List Argument
  | [] => []
  | a :: rest => a.leaves ++ leavesOf rest

end

@[simp] def Known : Argument → Prop
  | .dim _ => False
  | _ => True

theorem leaves_subset {a : Argument} {args : List Argument} (member : a ∈ args) :
    a.leaves ⊆ leavesOf args := by
  induction args with
  | nil => cases member
  | cons b rest ih =>
    rcases List.mem_cons.mp member with rfl | member
    · exact List.subset_append_left _ _
    · exact List.Subset.trans (ih member) (List.subset_append_right _ _)

end Argument

namespace Place
variable {p : Place} {a : Argument} {v : Int} {w : Int64}

theorem integer_eq_ok : p.integer a = .ok v ↔ ∃ w, a = .int w ∧ w.toInt = v := by
  cases a <;> simp [integer]

theorem positive_eq_ok : p.positive v = .ok n ↔ 0 < n ∧ v = n := by
  unfold Place.positive
  split
  · rw [Except.ok.injEq]
    omega
  · simp only [reduceCtorEq, false_iff]
    omega

theorem nonNegative_eq_ok : p.nonNegative v = .ok n ↔ v = n := by
  unfold nonNegative
  split
  · rw [Except.ok.injEq]
    omega
  · simp only [reduceCtorEq, false_iff]
    omega

theorem positive_word (read : p.positive w.toInt = .ok n) : (Expr.ofNat n).Positive := by
  obtain ⟨positive, same⟩ := positive_eq_ok.mp read
  exact ⟨w.toInt, by rw [Expr.ofNat, ← same, Expr.wrap_word], by omega⟩

theorem extent_positive {e : Extent} (read : p.extent a = .ok e) : e.Positive := by
  simp only [extent, bind_eq_ok, pure_eq_ok] at read
  obtain ⟨vs, -, ns, hns, rfl⟩ := read
  have positive : ∀ n ∈ ns, 0 < n := by
    intro n member
    obtain ⟨v, -, hn⟩ := mem_of_vector_mapM hns n member
    exact (positive_eq_ok.mp hn).1
  exact ⟨positive _ (Vector.getElem_mem _), positive _ (Vector.getElem_mem _)⟩

theorem openSize_word (read : p.openSize a = .ok (some n)) :
    ∃ w : Int64, p.positive w.toInt = .ok n := by
  unfold openSize at read
  split at read
  · cases read
  · simp only [bind_eq_ok, pure_eq_ok] at read
    obtain ⟨v, hv, m, hm, same⟩ := read
    obtain rfl := Option.some.inj same
    obtain ⟨w, -, rfl⟩ := integer_eq_ok.mp hv
    exact ⟨w, hm⟩

theorem outputSizes_word {sizes : Option Nat × Option Nat} (read : p.outputSizes a = .ok sizes)
    (chosen : sizes.1 = some n ∨ sizes.2 = some n) : ∃ w : Int64, p.positive w.toInt = .ok n := by
  unfold outputSizes at read
  split at read
  · rename_i w
    simp only [bind_eq_ok, pure_eq_ok] at read
    obtain ⟨m, hm, rfl⟩ := read
    have same : m = n := by simpa using chosen
    rw [← same]
    exact ⟨w, hm⟩
  · simp only [bind_eq_ok, pure_eq_ok] at read
    obtain ⟨h, hh, w, hw, rfl⟩ := read
    rcases chosen with rfl | rfl
    · exact openSize_word hh
    · exact openSize_word hw
  · cases read

theorem outputSizes_ok {sizes : Option Nat × Option Nat} (read : p.outputSizes a = .ok sizes)
    (chosen : sizes.1 = some n ∨ sizes.2 = some n) : (Expr.ofNat n).Positive := by
  obtain ⟨w, positive⟩ := outputSizes_word read chosen
  exact positive_word positive

theorem integers_ok {vs : Vector Int n} (read : p.integers n a = .ok vs) :
    ∀ v ∈ vs, v ≤ Word.greatest := by
  intro v member
  unfold integers at read
  split at read
  · obtain rfl := Except.ok.inj read
    rw [Vector.eq_of_mem_replicate member]
    exact Word.le_greatest _
  · split at read
    · obtain ⟨item, -, hv⟩ := mem_of_vector_mapM read v member
      obtain ⟨w, -, rfl⟩ := integer_eq_ok.mp hv
      exact Word.le_greatest w
    · cases read
  · cases read

/-- Counts that are the integers themselves, once these are found to be in order. -/
theorem counts_isWord {check : Int → Reading Nat} (same : ∀ v m, check v = .ok m → v = m)
    {vs : Vector Int n} {ms : Vector Nat n} (read : p.integers n a = .ok vs)
    (checked : vs.mapM check = .ok ms) : ∀ m ∈ ms, (m : Int) ≤ Word.greatest := by
  intro m member
  obtain ⟨v, hv, hm⟩ := mem_of_vector_mapM checked m member
  rw [← same v m hm]
  exact integers_ok read v hv

theorem extent_isWord {e : Extent} (read : p.extent a = .ok e) : e.IsWord := by
  simp only [extent, bind_eq_ok, pure_eq_ok] at read
  obtain ⟨vs, hvs, ns, hns, rfl⟩ := read
  have bound := counts_isWord (fun _ _ hn => (positive_eq_ok.mp hn).2) hvs hns
  exact ⟨bound _ (Vector.getElem_mem _), bound _ (Vector.getElem_mem _)⟩

theorem naturals_isWord {ns : Vector Nat n} (read : p.naturals n a = .ok ns) :
    ∀ m ∈ ns, (m : Int) ≤ Word.greatest := by
  simp only [naturals, bind_eq_ok] at read
  obtain ⟨vs, hvs, hns⟩ := read
  exact counts_isWord (fun _ _ hn => nonNegative_eq_ok.mp hn) hvs hns

theorem convPadding_isWord {e : Extent} (read : p.convPadding a = .ok (.fixed e)) : e.IsWord := by
  unfold convPadding at read
  split at read
  · cases read
    exact ⟨by decide, by decide⟩
  · cases read
  · cases read
  · simp only [amounts, bind_eq_ok, pure_eq_ok] at read
    obtain ⟨_, ⟨ns, hns, rfl⟩, same⟩ := read
    cases same
    have bound := naturals_isWord hns
    exact ⟨bound _ (Vector.getElem_mem _), bound _ (Vector.getElem_mem _)⟩

theorem border_isWord {b : Border} (read : p.border a = .ok b) : b.IsWord := by
  simp only [border, bind_eq_ok, pure_eq_ok] at read
  obtain ⟨ns, hns, rfl⟩ := read
  have bound := naturals_isWord hns
  simp only [Border.IsWord, Border.toList, List.forall_mem_cons]
  exact ⟨bound _ (Vector.getElem_mem _), bound _ (Vector.getElem_mem _),
    bound _ (Vector.getElem_mem _), bound _ (Vector.getElem_mem _), List.forall_mem_nil _⟩

theorem positiveSize_ok {e : Expr} (known : ∀ x ∈ a.leaves, x.Known)
    (read : p.positiveSize a = .ok e) : e.Positive := by
  unfold positiveSize at read
  split at read
  · simp only [bind_eq_ok, pure_eq_ok] at read
    obtain ⟨n, hn, rfl⟩ := read
    exact positive_word hn
  · exact (known (.dim _) List.mem_cons_self).elim
  · cases read

theorem layers_ok {args : List Argument} {ls : List Layer} (read : p.layers args = .ok ls) :
    ∀ l ∈ ls, .layer l ∈ args := by
  induction args generalizing ls with
  | nil =>
    cases read
    simp
  | cons a rest ih =>
    simp only [layers, bind_eq_ok, pure_eq_ok] at read
    obtain ⟨l, first, ls, others, rfl⟩ := read
    intro l' member
    rcases List.mem_cons.mp member with rfl | member
    · unfold layer at first
      split at first
      · rw [Except.ok.inj first]
        exact List.mem_cons_self
      · cases first
    · exact List.mem_cons_of_mem a (ih others l' member)

theorem layerList_ok {ls : List Layer} (read : p.layerList a = .ok ls) :
    ∀ l ∈ ls, .layer l ∈ a.leaves := by
  unfold layerList at read
  split at read
  · intro l member
    exact Argument.leaves_subset (layers_ok read l member) List.mem_cons_self
  · cases read

end Place

namespace BoundArgs
variable {b : BoundArgs} {name : String} {read : Place → Argument → Reading α} {v default : α}

@[simp] def leaves (b : BoundArgs) : List Argument :=
  Argument.leavesOf (b.values.map (·.2) ++ b.rest)

theorem mem_values {a : Argument} (found : b.value? name = some a) : (name, a) ∈ b.values := by
  have stored : b.values.lookup name = some a := by
    unfold value? at found
    split at found
    · cases found
    · exact found
  obtain ⟨front, back, split, _⟩ := List.lookup_eq_some_iff.mp stored
  simp [split]

theorem value_leaves {a : Argument} (found : b.value? name = some a) : a.leaves ⊆ b.leaves := by
  have member : a ∈ b.values.map (·.2) := List.mem_map.mpr ⟨(name, a), mem_values found, rfl⟩
  exact Argument.leaves_subset (List.mem_append_left _ member)

theorem rest_leaves {a : Argument} (member : a ∈ b.rest) : a.leaves ⊆ b.leaves :=
  Argument.leaves_subset (List.mem_append_right _ member)

theorem mandatory_ok (answer : b.mandatory name read = .ok v) :
    ∃ a, b.value? name = some a ∧ read (b.place name) a = .ok v := by
  simp only [mandatory, bind_eq_ok] at answer
  obtain ⟨a, ha, hv⟩ := answer
  unfold required at ha
  split at ha
  · rename_i found
    obtain rfl := Except.ok.inj ha
    exact ⟨_, found, hv⟩
  · cases ha

theorem orDefault_ok (answer : b.orDefault name read default = .ok v) :
    v = default ∨ ∃ a, b.value? name = some a ∧ read (b.place name) a = .ok v := by
  simp only [orDefault, bind_eq_ok, pure_eq_ok] at answer
  obtain ⟨found, hfound, rfl⟩ := answer
  unfold optional at hfound
  split at hfound
  · rename_i a present
    simp only [bind_eq_ok, pure_eq_ok] at hfound
    obtain ⟨x, hx, rfl⟩ := hfound
    exact .inr ⟨a, present, hx⟩
  · obtain rfl := Except.ok.inj hfound
    exact .inl rfl

structure ReadsPooling (b : BoundArgs) (w : PoolingWindow) : Prop where
  kernel : b.mandatory "kernel_size" Place.extent = .ok w.kernel
  stride : b.orDefault "stride" Place.extent w.kernel = .ok w.stride
  height : w.padding.height ≤ w.kernel.height / 2
  width : w.padding.width ≤ w.kernel.width / 2

theorem poolingWindow_ok {w : PoolingWindow} (answer : b.poolingWindow = .ok w) :
    b.ReadsPooling w := by
  simp only [poolingWindow, bind_eq_ok, ite_throw_eq_ok, pure_eq_ok, not_or, Nat.not_lt] at answer
  obtain ⟨kernel, hkernel, stride, hstride, padding, -, ⟨height, width⟩, rfl⟩ := answer
  exact ⟨hkernel, hstride, height, width⟩

theorem averagePooling_ok {p : AveragePooling} (answer : b.averagePooling = .ok p) :
    b.ReadsPooling ⟨p.kernel, p.stride, p.padding⟩ := by
  simp only [averagePooling, bind_eq_ok, ite_throw_eq_ok, pure_eq_ok] at answer
  obtain ⟨w, hw, divisor, -, -, rfl⟩ := answer
  exact poolingWindow_ok hw

structure ReadsConvolution (b : BoundArgs) (c : Convolution) : Prop where
  inChannels : b.mandatory "in_channels" Place.positiveSize = .ok c.inChannels
  outChannels : b.mandatory "out_channels" Place.positiveSize = .ok c.outChannels
  stride : b.orDefault "stride" Place.extent (.square 1) = .ok c.stride
  padding : b.orDefault "padding" Place.convPadding (.fixed (.square 0)) = .ok c.padding

theorem convolution_ok {c : Convolution} (answer : b.convolution = .ok c) :
    b.ReadsConvolution c := by
  simp only [convolution, bind_eq_ok, ite_throw_eq_ok] at answer
  obtain ⟨inChannels, hin, outChannels, hout, kernel, -, stride, hstride, padding, hpadding,
    dilation, -, groups, -, mode, -, -, -, -, answer⟩ := answer
  split at answer
  · cases answer
  · obtain rfl := Except.ok.inj answer
    exact ⟨hin, hout, hstride, hpadding⟩

theorem normalization_reads {flags : Bool} {n : Normalization}
    (answer : b.normalization flags = .ok n) :
    b.mandatory "num_features" Place.positiveSize = .ok n.numFeatures := by
  simp only [normalization, bind_eq_ok, pure_eq_ok] at answer
  obtain ⟨numFeatures, hnum, -, -, -, -, rfl⟩ := answer
  exact hnum

theorem mandatory_extent_positive {e : Extent} (answer : b.mandatory name Place.extent = .ok e) :
    e.Positive := by
  obtain ⟨a, -, read⟩ := mandatory_ok answer
  exact Place.extent_positive read

theorem orDefault_extent_positive {d e : Extent} (positive : d.Positive)
    (answer : b.orDefault name Place.extent d = .ok e) : e.Positive := by
  rcases orDefault_ok answer with rfl | ⟨a, -, read⟩
  · exact positive
  · exact Place.extent_positive read

theorem mandatory_extent {e : Extent} (answer : b.mandatory name Place.extent = .ok e) :
    e.IsWord := by
  obtain ⟨a, -, read⟩ := mandatory_ok answer
  exact Place.extent_isWord read

theorem orDefault_extent {d e : Extent} (word : d.IsWord)
    (answer : b.orDefault name Place.extent d = .ok e) : e.IsWord := by
  rcases orDefault_ok answer with rfl | ⟨a, -, read⟩
  · exact word
  · exact Place.extent_isWord read

theorem pooling_words {w : PoolingWindow} (reads : b.ReadsPooling w) :
    w.kernel.IsWord ∧ w.stride.IsWord := by
  have kernel := mandatory_extent reads.kernel
  exact ⟨kernel, orDefault_extent kernel reads.stride⟩

theorem convolution_words {c : Convolution} (reads : b.ReadsConvolution c) :
    c.stride.IsWord ∧ ∀ amount, c.padding = .fixed amount → amount.IsWord := by
  refine ⟨orDefault_extent ⟨by decide, by decide⟩ reads.stride, ?_⟩
  intro amount fixed
  rcases orDefault_ok reads.padding with unpadded | ⟨a, -, read⟩
  · cases fixed.symm.trans unpadded
    exact ⟨by decide, by decide⟩
  · rw [fixed] at read
    exact Place.convPadding_isWord read

section Known
variable (known : ∀ x ∈ b.leaves, x.Known)
include known

theorem mandatory_positiveSize {e : Expr} (answer : b.mandatory name Place.positiveSize = .ok e) :
    e.Positive := by
  obtain ⟨a, found, read⟩ := mandatory_ok answer
  exact Place.positiveSize_ok (fun x inside => known x (value_leaves found inside)) read

theorem normalization_ok {flags : Bool} {n : Normalization}
    (answer : b.normalization flags = .ok n) : n.numFeatures.Positive :=
  mandatory_positiveSize known (normalization_reads answer)

end Known
end BoundArgs
end ShapeFlow
