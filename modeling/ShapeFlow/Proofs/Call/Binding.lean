import Mathlib.Data.List.Nodup
import ShapeFlow.Call.Signature
/-!
What becomes of the arguments of a call. Whether a call fits a parameter list depends on how many
positional arguments it has and on the names of its keywords, never on a value. The first keyword
that does not fit is the one reported.
-/
namespace ShapeFlow.Signature
variable {sig : Signature} {className : String} {call : Call}

def filled (sig : Signature) (call : Call) : List String :=
  if sig.variadic then [] else sig.params.take call.positional.length

def Overfull (sig : Signature) (call : Call) : Prop :=
  sig.variadic = false ∧ sig.params.length < call.positional.length

instance (sig : Signature) (call : Call) : Decidable (sig.Overfull call) :=
  inferInstanceAs (Decidable (_ ∧ _))

/-- A call that the parameters take. -/
structure Fits (sig : Signature) (call : Call) : Prop where
  room : ¬ sig.Overfull call
  known : ∀ k ∈ call.keywords, k.1 ∈ sig.params
  unfilled : ∀ k ∈ call.keywords, k.1 ∉ sig.filled call
  once : (call.keywords.map Prod.fst).Nodup

structure Binds (sig : Signature) (className : String) (call : Call) (b : BoundArgs) : Prop where
  className : b.className = className
  names : (b.values.map Prod.fst).Nodup
  values (name : String) (a : Argument) : b.values.lookup name = some a ↔
    (sig.variadic = false ∧ ∃ i : Nat, sig.params[i]? = some name ∧ call.positional[i]? = some a) ∨
      (name, a) ∈ call.keywords
  size : b.values.length =
    (if sig.variadic then 0 else call.positional.length) + call.keywords.length
  rest : b.rest = if sig.variadic then call.positional else []

/-- The keyword at `j` is no parameter, or one that is taken or named by an earlier keyword. -/
def Offends (sig : Signature) (taken names : List String) (j : Nat) (name : String) : Prop :=
  names[j]? = some name ∧ (name ∉ sig.params ∨ name ∈ taken ∨ name ∈ names.take j)

def refusal (sig : Signature) (className name : String) : ArgError :=
  if name ∈ sig.params then .duplicate ⟨className, name⟩ else .unexpectedKeyword ⟨className, name⟩

/-- What a call that does not fit is refused with. -/
inductive Refuses (sig : Signature) (className : String) (call : Call) : ArgError → Prop where
  | positional (full : sig.Overfull call) : Refuses sig className call
      (.tooManyPositional className sig.params.length call.positional.length)
  | keyword (j : Nat) (name : String) (room : ¬ sig.Overfull call)
      (offends : sig.Offends (sig.filled call) (call.keywords.map Prod.fst) j name)
      (leftmost : ∀ i < j, ∀ other,
        ¬ sig.Offends (sig.filled call) (call.keywords.map Prod.fst) i other) :
      Refuses sig className call (sig.refusal className name)

def refusal? (sig : Signature) (className : String) : List String → List String → Option ArgError
  | _, [] => none
  | taken, name :: rest =>
    if name ∉ sig.params then some (.unexpectedKeyword ⟨className, name⟩)
    else if name ∈ taken then some (.duplicate ⟨className, name⟩)
    else refusal? sig className (taken ++ [name]) rest

theorem addKeywords_eq (values keywords : List (String × Argument)) :
    sig.addKeywords className values keywords =
      match sig.refusal? className (values.map Prod.fst) (keywords.map Prod.fst) with
      | some e => .error e
      | none => .ok (values ++ keywords) := by
  induction keywords generalizing values with
  | nil => simp [addKeywords, refusal?]
  | cons k rest ih =>
    obtain ⟨name, a⟩ := k
    simp only [addKeywords, refusal?, List.map_cons, Entries.isSome_lookup]
    by_cases unknown : name ∉ sig.params
    · simp only [if_pos unknown]
    · by_cases taken : name ∈ values.map Prod.fst
      · simp only [if_neg unknown, if_pos taken]
      · simp only [if_neg unknown, if_neg taken]
        rw [ih]
        simp

theorem foldl_put (pairs values : List (String × Argument))
    (distinct : ((values ++ pairs).map Prod.fst).Nodup) :
    pairs.foldl (fun t p => Entries.put p.1 p.2 t) values = values ++ pairs := by
  induction pairs generalizing values with
  | nil => simp
  | cons p rest ih =>
    have absent : p.1 ∉ values.map Prod.fst := by
      intro mem
      rw [List.map_append, List.nodup_append] at distinct
      exact distinct.2.2 p.1 mem p.1 (by simp) rfl
    rw [List.foldl_cons, Entries.put_of_absent p.2 values absent, ih]
    · simp
    · simpa using distinct

theorem zip_names (params : List String) (args : List Argument) :
    (params.zip args).map Prod.fst = params.take args.length := by
  induction params generalizing args with
  | nil => simp
  | cons p params ih =>
    cases args with
    | nil => simp
    | cons a args => simp [ih]

theorem fill_eq {params : List String} (distinct : params.Nodup) (args : List Argument) :
    fill params args = params.zip args := by
  unfold fill
  rw [foldl_put]
  · simp
  · rw [List.nil_append, zip_names]
    exact distinct.sublist (List.take_sublist _ _)

def given (sig : Signature) (call : Call) : List (String × Argument) :=
  if sig.variadic then [] else sig.params.zip call.positional

theorem given_names (sig : Signature) (call : Call) :
    (sig.given call).map Prod.fst = sig.filled call := by
  unfold given filled
  split
  · rfl
  · exact zip_names _ _

theorem bind_eq (distinct : sig.params.Nodup) (className : String) (call : Call) :
    sig.bind className call =
      if sig.Overfull call then
        .error (.tooManyPositional className sig.params.length call.positional.length)
      else match sig.refusal? className (sig.filled call) (call.keywords.map Prod.fst) with
        | some e => .error e
        | none => .ok ⟨className, sig.given call ++ call.keywords,
            if sig.variadic then call.positional else []⟩ := by
  obtain ⟨params, variadic⟩ := sig
  rw [← given_names]
  cases variadic with
  | true =>
    simp only [Signature.bind, given, Overfull, addKeywords_eq, if_true, Bool.true_eq_false,
      false_and, if_false, List.nil_append, List.map_nil]
    generalize refusal? _ className [] (call.keywords.map Prod.fst) = found
    cases found <;> rfl
  | false =>
    simp only [Signature.bind, given, Overfull, fill_eq distinct, addKeywords_eq, true_and,
      Bool.false_eq_true, if_false]
    by_cases full : params.length < call.positional.length
    · simp only [if_pos full]
    · simp only [if_neg full]
      generalize refusal? _ className _ (call.keywords.map Prod.fst) = found
      cases found <;> rfl

theorem refusal?_eq_none {taken names : List String} :
    sig.refusal? className taken names = none ↔
      (∀ name ∈ names, name ∈ sig.params ∧ name ∉ taken) ∧ names.Nodup := by
  induction names generalizing taken with
  | nil => simp [refusal?]
  | cons n rest ih =>
    unfold refusal?
    by_cases unknown : n ∉ sig.params
    · simp [unknown]
    · by_cases filled : n ∈ taken
      · simp [unknown, filled]
      · rw [if_neg unknown, if_neg filled, ih]
        simp only [List.mem_append, List.mem_singleton, List.nodup_cons, List.forall_mem_cons]
        constructor
        · intro ⟨fit, once⟩
          have later : n ∉ rest := fun mem => (fit n mem).2 (.inr rfl)
          refine ⟨⟨⟨not_not.mp unknown, filled⟩, ?_⟩, later, once⟩
          intro name mem
          exact ⟨(fit name mem).1, fun h => (fit name mem).2 (.inl h)⟩
        · intro ⟨⟨_, fit⟩, later, once⟩
          refine ⟨?_, once⟩
          intro name mem
          refine ⟨(fit name mem).1, ?_⟩
          rintro (h | rfl)
          · exact (fit name mem).2 h
          · exact later mem

theorem offends_succ {taken rest : List String} {n name : String} {j : Nat} :
    sig.Offends taken (n :: rest) (j + 1) name ↔ sig.Offends (taken ++ [n]) rest j name := by
  simp only [Offends, List.getElem?_cons_succ, List.take_succ_cons, List.mem_cons, List.mem_append,
    List.not_mem_nil, or_false, or_assoc]

theorem refusal?_leftmost {taken names : List String} {e : ArgError}
    (refused : sig.refusal? className taken names = some e) :
    ∃ j name, sig.Offends taken names j name ∧
      (∀ i < j, ∀ other, ¬ sig.Offends taken names i other) ∧ e = sig.refusal className name := by
  induction names generalizing taken with
  | nil => simp [refusal?] at refused
  | cons n rest ih =>
    unfold refusal? at refused
    by_cases unknown : n ∉ sig.params
    · rw [if_pos unknown] at refused
      refine ⟨0, n, ⟨rfl, .inl unknown⟩, by simp, ?_⟩
      rw [refusal, if_neg unknown]
      exact (Option.some.inj refused).symm
    · by_cases filled : n ∈ taken
      · rw [if_neg unknown, if_pos filled] at refused
        refine ⟨0, n, ⟨rfl, .inr (.inl filled)⟩, by simp, ?_⟩
        rw [refusal, if_pos (not_not.mp unknown)]
        exact (Option.some.inj refused).symm
      · rw [if_neg unknown, if_neg filled] at refused
        obtain ⟨j, name, offends, leftmost, same⟩ := ih refused
        refine ⟨j + 1, name, offends_succ.mpr offends, ?_, same⟩
        intro i before other
        cases i with
        | zero =>
          intro ⟨here, why⟩
          obtain rfl : n = other := by simpa using here
          rcases why with stranger | early | none
          · exact unknown stranger
          · exact filled early
          · simp at none
        | succ i =>
          rw [offends_succ]
          exact leftmost i (by omega) other

theorem fits_iff (className : String) : sig.Fits call ↔ ¬ sig.Overfull call ∧
    sig.refusal? className (sig.filled call) (call.keywords.map Prod.fst) = none := by
  rw [refusal?_eq_none, List.forall_mem_map]
  constructor
  · intro fits
    exact ⟨fits.room, fun k mem => ⟨fits.known k mem, fits.unfilled k mem⟩, fits.once⟩
  · intro ⟨room, each, once⟩
    exact ⟨room, fun k mem => (each k mem).1, fun k mem => (each k mem).2, once⟩

theorem mem_given {name : String} {a : Argument} : (name, a) ∈ sig.given call ↔
    sig.variadic = false ∧
      ∃ i : Nat, sig.params[i]? = some name ∧ call.positional[i]? = some a := by
  unfold given
  cases sig.variadic with
  | true => simp
  | false => simp [List.mem_iff_getElem?, List.getElem?_zip_eq_some]

theorem filled_nodup (distinct : sig.params.Nodup) (call : Call) : (sig.filled call).Nodup := by
  unfold filled
  split
  · exact List.nodup_nil
  · exact distinct.sublist (List.take_sublist _ _)

theorem length_given (room : ¬ sig.Overfull call) :
    (sig.given call).length = if sig.variadic then 0 else call.positional.length := by
  unfold given
  unfold Overfull at room
  cases variadic : sig.variadic with
  | true => rfl
  | false =>
    have enough : call.positional.length ≤ sig.params.length := by simp_all
    simp [enough]

theorem binds_of_fits (distinct : sig.params.Nodup) (className : String) (fits : sig.Fits call) :
    sig.Binds className call ⟨className, sig.given call ++ call.keywords,
      if sig.variadic then call.positional else []⟩ := by
  have names : ((sig.given call ++ call.keywords).map Prod.fst).Nodup := by
    rw [List.map_append, given_names, List.nodup_append]
    refine ⟨filled_nodup distinct call, fits.once, ?_⟩
    intro name filled other named same
    obtain ⟨k, mem, rfl⟩ := List.mem_map.mp named
    exact fits.unfilled k mem (same ▸ filled)
  refine ⟨rfl, names, ?_, ?_, rfl⟩
  · intro name a
    rw [Entries.lookup_eq_some_iff names, List.mem_append, mem_given]
  · rw [List.length_append, length_given fits.room]

/-- What a parameter has for a value is an argument of the call. -/
theorem mem_of_bind (distinct : sig.params.Nodup) {b : BoundArgs} {name : String} {a : Argument}
    (bound : sig.bind className call = .ok b) (stored : (name, a) ∈ b.values) :
    a ∈ call.positional ++ call.keywords.map (·.2) := by
  rw [bind_eq distinct] at bound
  split at bound
  · cases bound
  · split at bound
    · cases bound
    · obtain rfl := Except.ok.inj bound
      rw [List.mem_append]
      rcases List.mem_append.mp stored with positional | keyword
      · obtain ⟨-, i, -, found⟩ := mem_given.mp positional
        exact .inl (List.mem_of_getElem? found)
      · exact .inr (List.mem_map.mpr ⟨(name, a), keyword, rfl⟩)

/-- A call is taken exactly if it fits; then every argument is kept once, under the parameter that
it is given for. Too many positional arguments are reported before any keyword, and of the keywords
the leftmost that does not fit. -/
theorem bind_exact (sig : Signature) (distinct : sig.params.Nodup) (className : String)
    (call : Call) :
    ((∃ b, sig.bind className call = .ok b) ↔ sig.Fits call) ∧
    (∀ b, sig.bind className call = .ok b → sig.Binds className call b) ∧
    (∀ e, sig.bind className call = .error e → sig.Refuses className call e) := by
  rw [bind_eq distinct, fits_iff className]
  by_cases full : sig.Overfull call
  · simp only [if_pos full]
    refine ⟨by simp [full], by simp, ?_⟩
    intro e same
    cases same
    exact .positional full
  · simp only [if_neg full]
    cases found : sig.refusal? className (sig.filled call) (call.keywords.map Prod.fst) with
    | none =>
      refine ⟨by simp [full], ?_, by simp⟩
      intro b same
      cases same
      exact binds_of_fits distinct className ((fits_iff className).mpr ⟨full, found⟩)
    | some why =>
      refine ⟨by simp, by simp, ?_⟩
      intro e same
      cases same
      obtain ⟨j, name, offends, leftmost, rfl⟩ := refusal?_leftmost found
      exact .keyword j name full offends leftmost

theorem bind_exact_on_pooling_calls :
    let sig : Signature := ⟨["kernel_size", "stride", "padding"], false⟩
    let fitting : Call := ⟨[.int 3], [("padding", .int 1), ("stride", .none)]⟩
    let repeated : Call :=
      ⟨[.int 3], [("padding", .int 1), ("kernel_size", .int 2), ("size", .int 2)]⟩
    sig.params.Nodup ∧ sig.Fits fitting ∧
      (∀ b, sig.bind "MaxPool2d" fitting = .ok b → sig.Binds "MaxPool2d" fitting b) ∧
      sig.Refuses "MaxPool2d" repeated (.duplicate ⟨"MaxPool2d", "kernel_size"⟩) := by
  intro sig fitting repeated
  have distinct : sig.params.Nodup := by decide
  obtain ⟨taken, binds, -⟩ := bind_exact sig distinct "MaxPool2d" fitting
  obtain ⟨-, -, refuses⟩ := bind_exact sig distinct "MaxPool2d" repeated
  exact ⟨distinct, taken.mp ⟨_, rfl⟩, binds, refuses _ rfl⟩

end ShapeFlow.Signature
