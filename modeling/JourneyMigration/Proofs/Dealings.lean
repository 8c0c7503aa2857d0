import JourneyMigration.Proofs.TraversalStep

/-!
# Dealings — the record of a traversal, node by node.

A converted file does not show all that was done on the way: what a statement took up is gone once the
statement has gone. So a run is also read as the list of its dealings. Each node that the traversal comes
to gives one, the node as it stood with its children converted and what became of it, in the order in which
the traversal is done with them.

`dealings_induction` carries a property of runs and their records from the single dealings to the whole
file. Unlike `convert_induction` it hands over the progress of a node as it was computed, comments, names
and the waiting import included.
-/

namespace JourneyMigration

open JourneyMigration.Tree

/-! ## Progress, names apart -/

/-- The same progress with other names bound and another import waiting. -/
def Progress.withNames (names : List String) (waiting : Option Span) (p : Progress) : Progress :=
  { p with bindings := names, deferred := waiting }

theorem Progress.claim_withNames (ns : List String) (p : Progress) :
    ∃ names, (p.claim ns).2 = p.withNames names p.deferred :=
  ⟨_, p.claim_eq ns⟩

namespace Tree

/-- An import changes nothing but names and which import waits. -/
theorem convertImport_withNames (env : Setting) (t : Tree) (p : Progress) :
    ∃ names waiting, (convertImport env t p).2 = p.withNames names waiting := by
  have hsame : ∃ names waiting, p = p.withNames names waiting := ⟨p.bindings, p.deferred, rfl⟩
  unfold convertImport
  split
  · split
    · dsimp only
      split
      · exact hsame
      · split
        · exact ⟨p.bindings, _, rfl⟩
        · obtain ⟨names, hnames⟩ := p.claim_withNames env.neededNames
          exact ⟨names, p.deferred, hnames⟩
    · exact hsame
  · exact hsame

/-- A declarator changes nothing but names on the way down. -/
theorem claimByRequire_withNames (env : Setting) (t : Tree) (p : Progress) :
    ∃ names, (claimByRequire env t p).2 = p.withNames names p.deferred := by
  unfold claimByRequire
  split
  · split
    · exact p.claim_withNames _
    · exact ⟨p.bindings, rfl⟩
  · exact ⟨p.bindings, rfl⟩

/-- The import that is added in the end changes nothing but names, and waits no longer. -/
theorem addDeferredImport_withNames (env : Setting) (items : List Tree) (p : Progress) :
    ∃ names, (addDeferredImport env items p).2 = p.withNames names none := by
  unfold addDeferredImport
  split
  · rename_i hnone
    refine ⟨p.bindings, ?_⟩
    rw [← hnone]
    rfl
  · obtain ⟨names, hnames⟩ := Progress.claim_withNames env.neededNames { p with deferred := none }
    refine ⟨names, ?_⟩
    dsimp only
    split
    · exact hnames
    · exact hnames

end Tree

/-! ## The record -/

/-- One node that a traversal was done with. -/
structure Dealing where
  /-- The node, with its children converted. -/
  before : Tree
  /-- What became of it. -/
  after : Tree

namespace Tree

mutual

/-- What a traversal does in a tree. Nothing is done below an import, which is taken as it stands. -/
def dealings (env : Setting) : Tree → Progress → List Dealing
  | node k s cs, p =>
    if k.isImport then [⟨node k s cs, ((node k s cs).convert env p).1⟩]
    else
      -- only a declarator claims anything on the way down
      let start := (claimByRequire env (node k s cs) p).2
      dealingsAmong env cs start ++
        [⟨node k s (convertAmong env cs start).1, ((node k s cs).convert env p).1⟩]

/-- What a traversal does in trees, from left to right. -/
def dealingsAmong (env : Setting) : List Tree → Progress → List Dealing
  | [], _ => []
  | t :: ts, p => t.dealings env p ++ dealingsAmong env ts (t.convert env p).2

end

theorem claimByRequire_of_ne {env : Setting} {k : Kind} {s : Span} {cs : List Tree} {p : Progress}
    (hk : ∀ definite, k ≠ .declarator definite) : claimByRequire env (node k s cs) p = (none, p) := by
  unfold claimByRequire
  split
  · rename_i heq
    cases heq
    exact absurd rfl (hk _)
  · rfl

/-- Induction over a traversal and its record: what holds of every way to be done with a node, and of lists
when it holds of their elements, holds of the conversion of every tree. -/
theorem dealings_induction (env : Setting)
    (one : Tree → Progress → Tree → Progress → List Dealing → Prop)
    (many : List Tree → Progress → List Tree → Progress → List Dealing → Prop)
    (awaited : ∀ s e p t q ds, e.isStepCall = true → e.convert env p = (t, q) → one e p t q ds →
      one (await s e) p t q (ds ++ [⟨await s t, t⟩]))
    (imported : ∀ typeOnly phase s cs p t q,
      convertImport env (node (.importDecl typeOnly phase) s cs) p = (t, q) →
      one (node (.importDecl typeOnly phase) s cs) p t q [⟨node (.importDecl typeOnly phase) s cs, t⟩])
    (declared : ∀ definite s cs p claimed p' cs' q t ds,
      claimByRequire env (node (.declarator definite) s cs) p = (claimed, p') →
      convertAmong env cs p' = (cs', q) → many cs p' cs' q ds →
      (claimed.map fun names => (node (.declarator definite) s cs').takeUp names).getD
        (node (.declarator definite) s cs') = t →
      one (node (.declarator definite) s cs) p t q (ds ++ [⟨node (.declarator definite) s cs', t⟩]))
    (other : ∀ k s cs p cs' q t r ds, k.isImport = false → (∀ definite, k ≠ .declarator definite) →
      convertAmong env cs p = (cs', q) → many cs p cs' q ds →
      convertNode env (node k s cs') q = (t, r) → one (node k s cs) p t r (ds ++ [⟨node k s cs', t⟩]))
    (nil : ∀ p, many [] p [] p [])
    (cons : ∀ c cs p c' q cs' r ds ds', c.convert env p = (c', q) → one c p c' q ds →
      many cs q cs' r ds' → many (c :: cs) p (c' :: cs') r (ds ++ ds')) (t : Tree) :
    ∀ p, one t p (t.convert env p).1 (t.convert env p).2 (t.dealings env p) := by
  induction t with
  | node k s cs ih =>
    intro p
    have hmany : ∀ p, many cs p (convertAmong env cs p).1 (convertAmong env cs p).2
        (dealingsAmong env cs p) := by
      clear imported declared other awaited
      induction cs with
      | nil => exact nil
      | cons c cs ihcs =>
        intro p
        have htail := ihcs fun d hd => ih d (List.mem_cons_of_mem c hd)
        exact cons c cs p _ _ _ _ _ _ rfl (ih c List.mem_cons_self p) (htail _)
    rw [dealings]
    rcases traversal_cases k cs with ⟨e, rfl, rfl, hstep⟩ | ⟨typeOnly, phase, rfl⟩ | ⟨definite, rfl⟩ |
      ⟨hnotImport, hnotDeclarator, hnotStep⟩
    · -- the await goes when the step inside it is converted
      have hone := awaited s e p _ _ _ hstep rfl (ih e List.mem_cons_self p)
      have hrecord : dealingsAmong env [e] p = e.dealings env p := by simp [dealingsAmong]
      rw [convert_awaitedStep env s p hstep]
      show one _ p _ _ (dealingsAmong env [e] p ++ [⟨await s (e.convert env p).1, (e.convert env p).1⟩])
      rw [hrecord]
      exact hone
    · rw [convert_importDecl]
      exact imported typeOnly phase s cs p _ _ rfl
    · rw [convert_declarator]
      exact declared definite s cs p _ _ _ _ _ _ rfl rfl (hmany _) rfl
    · rw [claimByRequire_of_ne hnotDeclarator, hnotImport,
        convert_node env s p hnotImport hnotDeclarator hnotStep]
      exact other k s cs p _ _ _ _ _ hnotImport hnotDeclarator rfl (hmany p) rfl

/-- What holds of every way to be done with a node holds of all dealings of a traversal. -/
theorem dealings_forall (env : Setting) {P : Dealing → Prop} (awaited : ∀ s t, P ⟨await s t, t⟩)
    (imported : ∀ typeOnly phase s cs p, P ⟨node (.importDecl typeOnly phase) s cs,
      (convertImport env (node (.importDecl typeOnly phase) s cs) p).1⟩)
    (declared : ∀ t claimed, P ⟨t, (Option.map (fun names => t.takeUp names) claimed).getD t⟩)
    (other : ∀ t p, P ⟨t, (convertNode env t p).1⟩) (t : Tree) (p : Progress) :
    ∀ d ∈ t.dealings env p, P d := by
  -- a node adds one dealing behind those of its children
  have hbehind : ∀ {ds : List Dealing} {d : Dealing}, (∀ d ∈ ds, P d) → P d → ∀ e ∈ ds ++ [d], P e := by
    intro ds d hds hd e he
    rcases List.mem_append.mp he with he | he
    · exact hds e he
    · obtain rfl := List.mem_singleton.mp he
      exact hd
  refine dealings_induction env (fun _ _ _ _ ds => ∀ d ∈ ds, P d) (fun _ _ _ _ ds => ∀ d ∈ ds, P d)
    ?awaited ?imported ?declared ?other ?nil ?cons t p
  case awaited => exact fun s e p t' q ds _ _ ih => hbehind ih (awaited s t')
  case imported =>
    intro typeOnly phase s cs p t' q himport d hd
    have hd' := imported typeOnly phase s cs p
    rw [himport] at hd'
    obtain rfl := List.mem_singleton.mp hd
    exact hd'
  case declared =>
    intro definite s cs p claimed p' cs' q t' ds _ _ ih ht
    refine hbehind ih ?_
    rw [← ht]
    exact declared _ claimed
  case other =>
    intro k s cs p cs' q t' r ds _ _ _ ih hnode
    have hd := other (node k s cs') q
    rw [hnode] at hd
    exact hbehind ih hd
  case nil => exact fun _ _ hd => nomatch hd
  case cons =>
    intro c cs p c' q cs' r ds ds' _ hc hcs d hd
    rcases List.mem_append.mp hd with hd | hd
    · exact hc d hd
    · exact hcs d hd

end Tree

end JourneyMigration
