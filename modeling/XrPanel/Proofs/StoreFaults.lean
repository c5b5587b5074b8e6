import XrPanel.Proofs.StoreChanges

namespace XrPanel

open Script

variable {α β σ σ₁ σ₂ : Type} {l : List Step}
variable {st₁ : Store (StateM σ₁)} {st₂ : Store (StateM σ₂)} {hive₁ : σ₁ → Hive} {hive₂ : σ₂ → Hive} {x₁ : σ₁} {x₂ : σ₂}

def Step.attempt? : Step → Option (Request × Option StoreError)
  | asked r e => some (r, e)
  | told _ => none

def attempts (l : List Step) : List (Request × Option StoreError) := l.filterMap Step.attempt?

@[simp]
theorem attempts_nil : attempts [] = [] := rfl

@[simp]
theorem attempts_told (e : Event) (l : List Step) : attempts (.told e :: l) = attempts l := rfl

@[simp]
theorem attempts_asked (r : Request) (e : Option StoreError) (l : List Step) :
    attempts (.asked r e :: l) = (r, e) :: attempts l := rfl

@[simp]
theorem attempts_append (l m : List Step) : attempts (l ++ m) = attempts l ++ attempts m := List.filterMap_append

theorem clean_iff_attempts : Clean l ↔ ∀ c ∈ attempts l, c.2 = none := by
  induction l with
  | nil => simp
  | cons x l ih =>
    cases x with
    | told e => rw [clean_told, attempts_told, ih]
    | asked r e => rw [clean_asked, attempts_asked, List.forall_mem_cons, ih]

theorem attempts_of_clean (h : Clean l) : attempts l = (l.filterMap Step.request?).map (·, none) := by
  induction l with
  | nil => rfl
  | cons x l ih =>
    cases x with
    | told e => exact ih ((clean_told e l).1 h)
    | asked r e =>
      obtain ⟨rfl, hl⟩ := (clean_asked r e l).1 h
      rw [attempts_asked, ih hl]
      rfl

theorem map_fst_attempts (l : List Step) : (attempts l).map (·.1) = l.filterMap Step.request? := by
  induction l with
  | nil => rfl
  | cons x l ih =>
    cases x with
    | told e => exact ih
    | asked r e => exact congrArg (r :: ·) ih

def passed (cs : List (Request × Option StoreError)) : List Request := (cs.filter fun c => c.2.isNone).map (·.1)

theorem passed_append (cs ds : List (Request × Option StoreError)) : passed (cs ++ ds) = passed cs ++ passed ds := by
  simp [passed]

theorem passed_map (rs : List Request) : passed (rs.map (·, none)) = rs := by
  induction rs with
  | nil => rfl
  | cons r rs ih => exact congrArg (r :: ·) ih

theorem passed_failed (r : Request) (e : StoreError) : passed [(r, some e)] = [] := rfl

namespace Store

variable {st : Store (StateM σ)} {hive : σ → Hive}

def Intact (st : Store (StateM σ)) (hive : σ → Hive) : Prop :=
  ∀ r s e, (st r s).1 = .error e → hive (st r s).2 = hive s

theorem Backed.hive_passed (hst : st.Backed hive) (hintact : st.Intact hive) (p : Script α) (s : σ) :
    hive (p.runOn st s).2 = (passed (attempts (p.runOn st s).1.steps)).foldl Hive.after (hive s) := by
  induction p generalizing s with
  | done a => rfl
  | abort => rfl
  | tell e next ih => exact ih s
  | ask r next ih =>
    rw [Script.runOn_ask]
    refine (ih _ _).trans ?_
    dsimp only [Transcript.cons]
    rw [attempts_asked]
    cases ha : (st r s).1 with
    | ok a =>
      rw [hst.after ha]
      rfl
    | error e =>
      rw [hintact r s e ha]
      rfl

end Store

theorem Script.Reads.alike {p : Script α} {k : α → Script β} (hp : p.Reads) (hst₁ : st₁.Backed hive₁)
    (hst₂ : st₂.Backed hive₂) (hsame : hive₂ x₂ = hive₁ x₁)
    (hclean : Clean ((p >>= k).runOn st₁ x₁).1.steps)
    (hreads : ∀ c ∈ attempts ((p >>= k).runOn st₂ x₂).1.steps, c.1.writes = false → c.2 = none) :
    ∃ (a : α) (reads : List Request) (y₁ : σ₁) (y₂ : σ₂), (∀ q ∈ reads, q.writes = false) ∧
      (p.runOn st₂ x₂).1.result = some a ∧ (p.runOn st₂ x₂).1.requests = reads ∧
      ((p >>= k).runOn st₁ x₁).1.result = ((k a).runOn st₁ y₁).1.result ∧
      attempts ((p >>= k).runOn st₁ x₁).1.steps = reads.map (·, none) ++ attempts ((k a).runOn st₁ y₁).1.steps ∧
      ((p >>= k).runOn st₂ x₂).1.result = ((k a).runOn st₂ y₂).1.result ∧
      attempts ((p >>= k).runOn st₂ x₂).1.steps = reads.map (·, none) ++ attempts ((k a).runOn st₂ y₂).1.steps := by
  obtain ⟨a, ha, hquiet⟩ := hp.runOn st₂ x₂
  replace hquiet := changeRequests_eq_nil.1 hquiet
  have hclean₁ : Clean (p.runOn st₁ x₁).1.steps := clean_of_bind hclean
  have hclean₂ : Clean (p.runOn st₂ x₂).1.steps := by
    refine clean_iff_attempts.2 fun c hc => hreads c ?_ (hquiet c.1 ?_)
    · rw [runOn_bind_some ha, attempts_append]
      exact List.mem_append_left _ hc
    · rw [← map_fst_attempts]
      exact List.mem_map_of_mem hc
  have hruns : (p.runOn st₁ x₁).1 = (p.runOn st₂ x₂).1 := by
    rw [← hst₁.runOn_of_clean p hclean₁, ← hst₂.runOn_of_clean p hclean₂, hsame]
  refine ⟨a, (p.runOn st₂ x₂).1.requests, (p.runOn st₁ x₁).2, (p.runOn st₂ x₂).2, hquiet, ?_⟩
  rw [runOn_bind_some (hruns ▸ ha), runOn_bind_some ha, attempts_append, attempts_append, hruns,
    attempts_of_clean hclean₂]
  exact ⟨ha, rfl, rfl, rfl, rfl, rfl⟩

end XrPanel
