import ShapeFlow.Proofs.Expr.Closed
import ShapeFlow.Proofs.Layer.Constraints
/-!
The sizes that layers are built with. An integer is held to be positive when it is read, an
expression is taken as it is. So a layer keeps a size that is known to be below 1 exactly if it is
given an expression that is.
-/
namespace ShapeFlow
variable {a : Argument} {e d : Expr} {name : String}

def Expr.BelowOne (e : Expr) : Prop := e.Closed ∧ ∃ v < 1, ∀ σ, e.eval σ = .ok v

theorem Expr.belowOne_value : (Expr.value v).BelowOne ↔ v < 1 := by
  constructor
  · rintro ⟨-, w, small, known⟩
    have same : v = w := eval_value_ok.mp (known fun _ => none)
    rw [same]
    exact small
  · intro small
    exact ⟨trivial, v, small, fun _ => rfl⟩

/-- A simplified expression is known to be below 1 only as a literal. -/
theorem Expr.literal_of_belowOne (below : d.simplify.BelowOne) :
    ∃ v < 1, d.simplify = .value v := by
  obtain ⟨closed, v, small, known⟩ := below
  rcases normal_cases (normal_simplify d) closed (fun _ => none) with ⟨w, literal⟩ | fails
  · have same := known fun _ => none
    rw [literal, eval_value_ok] at same
    exact ⟨v, small, by rw [literal, same]⟩
  · cases fails.symm.trans (known _)

namespace Argument

/-- An integer that is read as a size is not below 1, so only an expression can be. -/
theorem belowOne_iff (stands : a.Size e) (positive : ∀ w, a = .int w → 1 ≤ w.toInt) :
    e.BelowOne ↔ ∃ d, a = .dim d ∧ d.BelowOne := by
  cases stands with
  | known w =>
    have positive : 1 ≤ w.toInt := positive w rfl
    rw [Expr.belowOne_value]
    constructor
    · intro small
      omega
    · nofun
  | symbolic e => simp only [dim.injEq, exists_eq_left']

/-- An expression that the host simplifies first is checked where it comes to a literal. -/
theorem simplified_not_belowOne (stands : a.Size e) (positive : ∀ w, a = .int w → 1 ≤ w.toInt)
    (simplified : a = .ofExpr d.simplify) : ¬ e.BelowOne := by
  intro below
  obtain ⟨d', rfl, below⟩ := (belowOne_iff stands positive).mp below
  unfold ofExpr at simplified
  split at simplified
  · cases simplified
  · rename_i symbolic
    obtain rfl := dim.inj simplified
    obtain ⟨v, -, literal⟩ := Expr.literal_of_belowOne below
    exact symbolic v literal

end Argument

def Layer.sizes : Layer → List (String × Expr)
  | .linear l => [("in_features", l.inFeatures), ("out_features", l.outFeatures)]
  | .conv2d c => [("in_channels", c.inChannels), ("out_channels", c.outChannels)]
  | .batchNorm2d n | .instanceNorm2d n => [("num_features", n.numFeatures)]
  | _ => []

namespace LayerClass
variable {c : LayerClass} {call : Call} {b : BoundArgs} {l : Layer}

def sizeParams (c : LayerClass) : List String :=
  c.signature.params.filter
    (· ∈ ["in_features", "out_features", "in_channels", "out_channels", "num_features"])

theorem mem_sizeParams : name ∈ c.sizeParams ↔
    (c = .linear ∧ (name = "in_features" ∨ name = "out_features")) ∨
    (c = .conv2d ∧ (name = "in_channels" ∨ name = "out_channels")) ∨
    ((c = .batchNorm2d ∨ c = .instanceNorm2d) ∧ name = "num_features") := by
  cases c <;> simp [sizeParams, signature, normalizationParams]

/-- A layer that is built has each size that its class takes, as it was read. -/
theorem size_of_build (made : c.build b = .ok l) (param : name ∈ c.sizeParams) :
    ∃ e, l.sizes.lookup name = some e ∧ b.mandatory name Place.positiveSize = .ok e := by
  rcases mem_sizeParams.mp param with ⟨rfl, named⟩ | ⟨rfl, named⟩ | ⟨rfl | rfl, rfl⟩
  · simp only [build, bind_eq_ok, pure_eq_ok] at made
    obtain ⟨inFeatures, hin, outFeatures, hout, rfl⟩ := made
    rcases named with rfl | rfl
    · exact ⟨inFeatures, rfl, hin⟩
    · exact ⟨outFeatures, rfl, hout⟩
  · simp only [build, bind_eq_ok, pure_eq_ok] at made
    obtain ⟨conv, hconv, rfl⟩ := made
    have reads := BoundArgs.convolution_ok hconv
    rcases named with rfl | rfl
    · exact ⟨conv.inChannels, rfl, reads.inChannels⟩
    · exact ⟨conv.outChannels, rfl, reads.outChannels⟩
  all_goals
    simp only [build, bind_eq_ok, pure_eq_ok] at made
    obtain ⟨n, hn, rfl⟩ := made
    exact ⟨n.numFeatures, rfl, BoundArgs.normalization_reads hn⟩

theorem divisible_one (d : Expr) : divisible d 1 = true := by
  cases d with
  | value v => simp [divisible]
  | var | neg | add | sub | mul | div | divCeil | broadcast => rfl

theorem convolution_of_expression (d : Expr) :
    BoundArgs.convolution ⟨"Conv2d",
      [("in_channels", .dim d), ("out_channels", .dim d), ("kernel_size", .int 1)], []⟩ =
      .ok { inChannels := d, outChannels := d, kernel := .square 1 } := by
  simp only [BoundArgs.convolution, bind_eq_ok, ite_throw_eq_ok, Bool.not_eq_true',
    Bool.not_eq_false]
  refine ⟨d, rfl, d, rfl, .square 1, ?kernel, _, rfl, _, rfl, _, rfl, _, rfl, _, rfl, ?conditions⟩
  case kernel =>
    exact BoundArgs.kernel_eq_ok.mpr ⟨⟨_, rfl, .one (.of 1 1 rfl)⟩, BoundArgs.positive_one⟩
  case conditions => exact ⟨divisible_one d, divisible_one d, (nomatch ·.1), rfl⟩

def Takes (c : LayerClass) (name : String) (d : Expr) : Prop :=
  ∃ call b l, c.signature.bind c.name call = .ok b ∧ c.build b = .ok l ∧
    b.value? name = some (.dim d) ∧ l.sizes.lookup name = some d

theorem takes_every_expression (param : name ∈ c.sizeParams) (d : Expr) : c.Takes name d := by
  rcases mem_sizeParams.mp param with ⟨rfl, named⟩ | ⟨rfl, named⟩ | ⟨rfl | rfl, rfl⟩
  · rcases named with rfl | rfl <;>
      exact ⟨⟨[.dim d, .dim d], []⟩, _, _, rfl, rfl, rfl, rfl⟩
  · have made := Layer.conv2d_eq_ok.mpr (convolution_of_expression d)
    rcases named with rfl | rfl <;>
      exact ⟨⟨[.dim d, .dim d, .int 1], []⟩, _, _, rfl, made, rfl, rfl⟩
  · exact ⟨⟨[.dim d], []⟩, _, _, rfl, rfl, rfl, rfl⟩
  · exact ⟨⟨[.dim d], []⟩, _, _, rfl, rfl, rfl, rfl⟩

/-- A built layer keeps every size as it was given, and integers are at least 1. A size is known to
be below 1 exactly if an expression was given that is, and not one that was simplified first. Every
expression is taken for every size. -/
theorem sizes_below_one_are_expressions (c : LayerClass) (name : String)
    (param : name ∈ c.sizeParams) :
    (∀ b l, c.build b = .ok l → ∃ a e, b.value? name = some a ∧ l.sizes.lookup name = some e ∧
        a.Size e ∧ (∀ w, a = .int w → 1 ≤ w.toInt) ∧ (e.BelowOne ↔ ∃ d, a = .dim d ∧ d.BelowOne) ∧
        ∀ d : Expr, a = .ofExpr d.simplify → ¬ e.BelowOne) ∧
      ∀ d, c.Takes name d := by
  refine ⟨?_, takes_every_expression param⟩
  intro b l made
  obtain ⟨e, stored, answer⟩ := size_of_build made param
  obtain ⟨a, found, read⟩ := BoundArgs.mandatory_ok answer
  obtain ⟨stands, positive⟩ := Place.positiveSize_stands.mp read
  exact ⟨a, e, found, stored, stands, positive, Argument.belowOne_iff stands positive,
    fun d => Argument.simplified_not_belowOne stands positive⟩

theorem sizes_below_one_are_expressions_for_negative_difference :
    let d : Expr := .sub (.value 3) (.value 5)
    let call : Call := ⟨[.dim d, .int 8], []⟩
    let b : BoundArgs := ⟨"Linear", [("in_features", .dim d), ("out_features", .int 8)], []⟩
    let l : Layer := .linear ⟨d, .value 8, true⟩
    "in_features" ∈ linear.sizeParams ∧
      linear.signature.bind "Linear" call = .ok b ∧ linear.build b = .ok l ∧ d.BelowOne ∧
      (∃ e, l.sizes.lookup "in_features" = some e ∧ e.BelowOne) ∧ linear.Takes "in_features" d := by
  intro d call b l
  have param : "in_features" ∈ linear.sizeParams := by decide
  have bound : linear.signature.bind "Linear" call = .ok b := rfl
  have given : b.mandatory "out_features" Place.positiveSize = .ok (.value 8) := by decide +kernel
  have made : linear.build b = .ok l := by
    rw [build, given]
    rfl
  have below : d.BelowOne := ⟨⟨trivial, trivial⟩, -2, by decide, fun _ => rfl⟩
  obtain ⟨kept, takes⟩ := sizes_below_one_are_expressions linear "in_features" param
  obtain ⟨a, e, found, stored, -, -, known, -⟩ := kept b l made
  have given : a = .dim d := (Option.some.inj found).symm
  exact ⟨param, bound, made, below, ⟨e, stored, known.mpr ⟨d, given, below⟩⟩, takes d⟩

end LayerClass
end ShapeFlow
