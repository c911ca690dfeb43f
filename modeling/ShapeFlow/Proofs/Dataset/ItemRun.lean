import Mathlib.Logic.Function.Iterate
import ShapeFlow.Dataset.Class
import ShapeFlow.Proofs.Policy.Sampling
import ShapeFlow.Random.Source
/-!
Runs of a dataset on any source. What is drawn for an item depends on the image policy, the labels,
the source and the number of items before it; indices, transforms and lengths play no part in it.
-/
namespace ShapeFlow

namespace SeededSource
variable {γ : Type} [SeededSource γ]

def next (g : γ) : γ := (word g).2

def nthWord (g : γ) (k : Nat) : UInt64 := (word (next^[k] g)).1

theorem nthWord_succ (g : γ) (k : Nat) : nthWord g (k + 1) = nthWord (next g) k := by
  rw [nthWord, nthWord, Function.iterate_succ_apply]

end SeededSource

namespace Raw
variable {σ : Type} [RandomSource σ] (image : ShapePolicy) (labels : IntRange)

def state (s : σ) (k : Nat) : σ :=
  (fun s => (draw image labels s).2)^[k] s

def nth (s : σ) (k : Nat) : Shape × Int :=
  (draw image labels (state image labels s k)).1

def ranges : List IntRange := image.ranges ++ [labels]

theorem state_succ (s : σ) (k : Nat) :
    state image labels s (k + 1) = state image labels (draw image labels s).2 k :=
  Function.iterate_succ_apply _ k s

theorem state_next (s : σ) (k : Nat) :
    state image labels s (k + 1) = (draw image labels (state image labels s k)).2 :=
  Function.iterate_succ_apply' _ k s

theorem nth_succ (s : σ) (k : Nat) :
    nth image labels s (k + 1) = nth image labels (draw image labels s).2 k := by
  rw [nth, nth, state_succ]

theorem draw_draws (s : σ) :
    ∃ vs, RandomSource.drawAll (ranges image labels) s =
        (vs ++ [(draw image labels s).1.2], (draw image labels s).2) ∧
      ShapePolicy.Fills image.dims vs (draw image labels s).1.1.dims := by
  obtain ⟨fills, left⟩ := image.sample_draws s
  refine ⟨(RandomSource.drawAll image.ranges s).1, ?_, fills⟩
  rw [ranges, RandomSource.drawAll_append, ← left]
  rfl

theorem nth_draws (s : σ) (k : Nat) :
    ∃ vs, RandomSource.drawAll (ranges image labels) (state image labels s k) =
        (vs ++ [(nth image labels s k).2], state image labels s (k + 1)) ∧
      ShapePolicy.Fills image.dims vs (nth image labels s k).1.dims := by
  rw [state_next]
  exact draw_draws image labels (state image labels s k)

theorem state_asked (t : Traced σ) (k : Nat) :
    (state image labels t k).asked =
      t.asked ++ (List.replicate k (ranges image labels)).flatten := by
  induction k with
  | zero => simp [state]
  | succ k ih =>
    obtain ⟨vs, drawn, -⟩ := nth_draws image labels t k
    have asked := RandomSource.drawAll_asked (ranges image labels) (state image labels t k)
    rw [drawn, ih] at asked
    rw [asked, List.replicate_succ', List.flatten_append]
    simp

theorem nth_admitted [LawfulSource σ] (s : σ) (k : Nat) :
    image.admits (nth image labels s k).1 ∧ labels.contains (nth image labels s k).2 := by
  constructor
  · exact image.sample_admitted (state image labels s k)
  · have inside := LawfulSource.draw_mem labels (image.sample (state image labels s k)).2
    rw [IntRange.contains, Bool.and_eq_true, decide_eq_true_eq, decide_eq_true_eq]
    exact inside

end Raw

namespace Profile
variable {σ : Type} [RandomSource σ] (p : Profile) (pipeline : Pipeline)

def itemFrom (s : σ) (j : Nat) : Item × Item :=
  pipeline.apply (.ofShape (Raw.nth p.image p.labels s j).1) (.int (Raw.nth p.image p.labels s j).2)

def next (s : σ) : σ := (Raw.draw p.image p.labels s).2

theorem itemFrom_succ (s : σ) (j : Nat) :
    p.itemFrom pipeline s (j + 1) = p.itemFrom pipeline (p.next s) j := by
  rw [itemFrom, itemFrom, Raw.nth_succ]
  rfl

end Profile

theorem ShapePolicy.fills_length {ds : List DimPolicy} {vs : List Int} {es : List Expr}
    (fills : Fills ds vs es) : es.length = ds.length := by
  induction fills with
  | nil => rfl
  | fixed _ _ ih | range _ _ _ ih | symbolic _ _ ih => simp [ih]

theorem Item.ofShape_image {s : Shape} (three : s.ndim = 3) :
    ∃ i, Item.ofShape s = .image i ∧ i.shape = s := by
  obtain ⟨dims⟩ := s
  match dims, three with
  | [channels, height, width], _ => exact ⟨⟨channels, height, width⟩, rfl, rfl⟩

theorem Item.ofShape_tensor {s : Shape} (other : s.ndim ≠ 3) :
    Item.ofShape s = .tensor ⟨s, .float32⟩ := by
  unfold ofShape Image.ofShape?
  split
  · rename_i found
    split at found
    · rename_i dims
      simp [Shape.ndim, dims] at other
    · cases found
  · rfl

namespace ImageDataset
variable {σ : Type} [RandomSource σ] {d : ImageDataset σ} {p : Profile} {pipeline : Pipeline} {s : σ}

structure Draws (d : ImageDataset σ) (p : Profile) (pipeline : Pipeline) (s : σ) : Prop where
  labels : d.labels = p.labels
  image : d.image = p.image
  pipeline : d.pipeline = pipeline
  source : d.source = s

omit [RandomSource σ] in
theorem setVerbose_draws (draws : d.Draws p pipeline s) (verbose : Bool) :
    (d.setVerbose verbose).Draws p pipeline s :=
  ⟨draws.labels, draws.image, draws.pipeline, draws.source⟩

theorem item_draws (draws : d.Draws p pipeline s) (index : Int) :
    (d.item index).value.1 = p.itemFrom pipeline s 0 ∧
      (d.item index).value.2.Draws p pipeline (p.next s) := by
  cases d
  obtain ⟨rfl, rfl, rfl, rfl⟩ := draws
  exact ⟨rfl, rfl, rfl, rfl, rfl⟩

theorem items_cons (d : ImageDataset σ) (index : Int) (rest : List Int) :
    (d.items (index :: rest)).value =
      ((d.item index).value.1 :: ((d.item index).value.2.items rest).value.1,
        ((d.item index).value.2.items rest).value.2) := rfl

/-- The items of a run are those that the source yields in turn, and nothing but the source moves. -/
theorem items_draws (draws : d.Draws p pipeline s) (indices : List Int) :
    (d.items indices).value =
      ((List.range indices.length).map (p.itemFrom pipeline s),
        { d with source := Raw.state p.image p.labels s indices.length }) := by
  induction indices generalizing d s with
  | nil =>
    obtain ⟨-, -, -, rfl⟩ := draws
    rfl
  | cons index rest ih =>
    obtain ⟨first, next⟩ := item_draws draws index
    rw [items_cons, ih next, first]
    simp only [List.length_cons, List.range_succ_eq_map, List.map_cons, List.map_map,
      Function.comp_def, Profile.itemFrom_succ, Raw.state_succ]
    rfl

end ImageDataset

namespace DatasetClass
variable {σ : Type} [RandomSource σ]

theorem create_draws (c : DatasetClass) (env : Environment) (options : DatasetOptions)
    (p : Profile) (s : σ) : (c.create env options p s).value.Draws p options.pipeline s := by
  cases c <;> exact ⟨rfl, rfl, rfl, rfl⟩

/-- What a source yields to every dataset of an image policy and a label range: the `k`-th item is
made of the sizes and the label drawn after those of `k` others, whatever the class, the lengths,
the transforms and the indices. Where the host gives functions, they are applied to just these. -/
theorem items_over_runs [LawfulSource σ] (image : ShapePolicy) (labels : IntRange) (source : σ) :
    let raw := Raw.nth image labels source
    let state := Raw.state image labels source
    (∀ k, image.admits (raw k).1 ∧ labels.contains (raw k).2 ∧
      (image.ndim = 3 → ∃ i, Item.ofShape (raw k).1 = .image i ∧ i.shape = (raw k).1) ∧
      (image.ndim ≠ 3 → Item.ofShape (raw k).1 = .tensor ⟨(raw k).1, .float32⟩)) ∧
    state 0 = source ∧
    (∀ k, ∃ vs, RandomSource.drawAll (image.ranges ++ [labels]) (state k) =
        (vs ++ [(raw k).2], state (k + 1)) ∧
      ShapePolicy.Fills image.dims vs (raw k).1.dims) ∧
    ∀ (c : DatasetClass) (env : Environment) (options : DatasetOptions) (profile : Profile)
      (indices : List Int), profile.image = image → profile.labels = labels →
      let opened := (c.create env options profile source).value
      let run := (opened.items indices).value
      let traced := (c.create env options profile (Traced.mk source [])).value
      run.1 = (List.range indices.length).map (fun k =>
        (Pipeline.applyOptional options.pipeline.sample (.ofShape (raw k).1),
          Pipeline.applyOptional options.pipeline.label (.int (raw k).2))) ∧
      (∀ f g : Option (String × (Item → Item)),
        options.pipeline = ⟨f.map fun f => .custom f.1 f.2, g.map fun g => .custom g.1 g.2⟩ →
        run.1 = (List.range indices.length).map fun k =>
          (f.elim (.ofShape (raw k).1) fun f => f.2 (.ofShape (raw k).1),
            g.elim (.int (raw k).2) fun g => g.2 (.int (raw k).2))) ∧
      run.2.source = state indices.length ∧
      (traced.items indices).value.2.source.asked =
        (List.replicate indices.length (image.ranges ++ [labels])).flatten ∧
      run.2.length = opened.length := by
  intro raw state
  refine ⟨?_, rfl, Raw.nth_draws image labels source, ?_⟩
  · intro k
    obtain ⟨admitted, label⟩ := Raw.nth_admitted image labels source k
    obtain ⟨vs, -, fills⟩ := Raw.nth_draws image labels source k
    have rank : (raw k).1.ndim = image.ndim := ShapePolicy.fills_length fills
    refine ⟨admitted, label, ?_, ?_⟩
    · intro three
      exact Item.ofShape_image (rank.trans three)
    · intro other
      exact Item.ofShape_tensor (fun three => other (rank.symm.trans three))
  · intro c env options profile indices sameImage sameLabels opened run traced
    subst sameImage sameLabels
    have made := ImageDataset.items_draws (c.create_draws env options profile source) indices
    have asked :=
      ImageDataset.items_draws (c.create_draws env options profile (Traced.mk source [])) indices
    have items := congrArg Prod.fst made
    refine ⟨items, ?_, congrArg (·.2.source) made, ?_, congrArg (·.2.length) made⟩
    · intro f g hosted
      refine items.trans (List.map_congr_left fun k _ => ?_)
      rw [Profile.itemFrom, hosted]
      cases f <;> cases g <;> rfl
    · rw [congrArg (·.2.source) asked]
      exact Raw.state_asked profile.image profile.labels (Traced.mk source []) indices.length

/-- The item at index -1 of a folder, asked for second, is the second that the generator yields,
passed through the functions of the host's. -/
theorem items_over_runs_of_folder :
    let source : Generator Seeded := .seeded (.ofSeed 7)
    let p := defaultProfile .imageFolder
    let shift (label : Item) : Item := .int (label.int?.getD 0 + 1)
    let options : DatasetOptions :=
      { root := "images"
        pipeline := ⟨some (.custom "to_tensor" Transform.convert), some (.custom "shift" shift)⟩ }
    let run := ((create .imageFolder {} options p source).value.items [5, -1]).value
    let raw := Raw.nth p.image p.labels source 1
    p.image.admits raw.1 ∧ p.labels.contains raw.2 ∧
      run.1[1]? = some (.tensor (.ofShape raw.1), .int (raw.2 + 1)) ∧ run.2.length = 100 := by
  intro source p shift options run raw
  obtain ⟨drawn, -, -, runs⟩ := items_over_runs p.image p.labels source
  obtain ⟨admitted, label, image, -⟩ := drawn 1
  obtain ⟨-, hosted, -, -, length⟩ := runs .imageFolder {} options p [5, -1] rfl rfl
  have items := hosted (some ("to_tensor", Transform.convert)) (some ("shift", shift)) rfl
  obtain ⟨i, made, shape⟩ := image rfl
  refine ⟨admitted, label, ?_, length⟩
  rw [show run.1 = _ from items]
  change some (Transform.convert (Item.ofShape raw.1), Item.int (raw.2 + 1)) = _
  rw [made, ← shape]
  rfl

end DatasetClass
end ShapeFlow
