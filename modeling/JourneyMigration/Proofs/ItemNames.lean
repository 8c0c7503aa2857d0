import JourneyMigration.Proofs.NamesTaken
import JourneyMigration.Proofs.Wrapping
import Mathlib.Data.List.Forall2

/-!
# Names of items — what a pass leaves of the names that a file declares.

The names that an item declares are read off a few nodes below it: the declaration, its patterns, the name of
a function or class. Both passes leave nodes of these kinds where they are and only change what hangs below
them (`Keeps`), so that a name can be followed from a tree to what the pass makes of it. Followed backwards,
by the same lemmas, it shows that no name is made up.
-/

namespace JourneyMigration

open JourneyMigration.Tree

/-- Whether names are read through nodes of this kind, below an item and above the expressions in it. -/
def Kind.isNaming : Kind → Bool
  | .list | .ident _ _ | .binding _ _ | .arrayPat _ | .objectPat _ | .keyPat | .shorthandPat | .defaultPat
  | .restPat _ | .varDecl _ _ | .functionDecl _ | .classDecl _ | .functionExpr | .expression .classExpr
  | .exportDecl | .item .exportDefaultDecl => true
  | _ => false

/-- A relation between trees and what becomes of them keeps nodes of these kinds, their children apart. -/
def Keeps (K : Kind → Bool) (becomes : Tree → Tree → Prop) : Prop :=
  ∀ k s cs t, K k = true → becomes (node k s cs) t →
    ∃ cs', t = node k s cs' ∧ List.Forall₂ becomes cs cs'

namespace Keeps

variable {K : Kind → Bool} {becomes : Tree → Tree → Prop} {k : Kind} {s : Span} {a b t : Tree}

theorem leaf (h : Keeps K becomes) (hk : K k = true) (ht : becomes (node k s []) t) : t = node k s [] := by
  obtain ⟨cs', rfl, hcs⟩ := h k s [] t hk ht
  rw [List.forall₂_nil_left_iff.mp hcs]

theorem single (h : Keeps K becomes) (hk : K k = true) (ht : becomes (node k s [a]) t) :
    ∃ a', t = node k s [a'] ∧ becomes a a' := by
  obtain ⟨cs', rfl, hcs⟩ := h k s [a] t hk ht
  obtain ⟨a', rest, ha, hrest, rfl⟩ := List.forall₂_cons_left_iff.mp hcs
  rw [List.forall₂_nil_left_iff.mp hrest]
  exact ⟨a', rfl, ha⟩

theorem pair (h : Keeps K becomes) (hk : K k = true) (ht : becomes (node k s [a, b]) t) :
    ∃ a' b', t = node k s [a', b'] ∧ becomes a a' ∧ becomes b b' := by
  obtain ⟨cs', rfl, hcs⟩ := h k s [a, b] t hk ht
  obtain ⟨a', rest, ha, hrest, rfl⟩ := List.forall₂_cons_left_iff.mp hcs
  obtain ⟨b', rest', hb, hrest', rfl⟩ := List.forall₂_cons_left_iff.mp hrest
  rw [List.forall₂_nil_left_iff.mp hrest']
  exact ⟨a', b', rfl, ha, hb⟩

end Keeps

theorem exists_of_forall₂ {R : Tree → Tree → Prop} {ts ts' : List Tree} {t : Tree}
    (h : List.Forall₂ R ts ts') (ht : t ∈ ts) : ∃ t' ∈ ts', R t t' := by
  induction h with
  | nil => cases ht
  | cons hhead _ ih =>
    rcases List.mem_cons.mp ht with rfl | ht
    · exact ⟨_, List.mem_cons_self, hhead⟩
    · obtain ⟨t', ht', hr⟩ := ih ht
      exact ⟨t', List.mem_cons_of_mem _ ht', hr⟩

/-! ## Patterns -/

theorem Keeps.mem_patternNames {becomes : Tree → Tree → Prop} (h : Keeps Kind.isNaming becomes)
    {n : String} {t t' : Tree} (ht : becomes t t') (hn : n ∈ t.patternNames) : n ∈ t'.patternNames := by
  refine patternNames.induct
    (fun t => ∀ t', becomes t t' → n ∈ t.patternNames → n ∈ t'.patternNames)
    (fun ts => ∀ ts', List.Forall₂ becomes ts ts' → n ∈ patternNamesAmong ts → n ∈ patternNamesAmong ts')
    ?binding ?array ?object ?key ?shorthand ?default ?rest ?other ?nil ?cons t t' ht hn
  case binding =>
    intro m optional s type t' ht hn
    obtain ⟨_, rfl, _⟩ := h.single rfl ht
    exact hn
  case array =>
    intro optional s elements type ih t' ht hn
    obtain ⟨_, _, rfl, hlist, _⟩ := h.pair rfl ht
    obtain ⟨elements', rfl, helements⟩ := h _ _ _ _ rfl hlist
    exact ih elements' helements hn
  case object =>
    intro optional s props type ih t' ht hn
    obtain ⟨_, _, rfl, hlist, _⟩ := h.pair rfl ht
    obtain ⟨props', rfl, hprops⟩ := h _ _ _ _ rfl hlist
    exact ih props' hprops hn
  case key =>
    intro key pattern ih t' ht hn
    obtain ⟨_, pattern', rfl, _, hpattern⟩ := h.pair rfl ht
    exact ih pattern' hpattern hn
  case shorthand =>
    intro s m optional bs type default t' ht hn
    obtain ⟨_, _, rfl, hkey, _⟩ := h.pair rfl ht
    obtain ⟨_, rfl, _⟩ := h.single rfl hkey
    exact hn
  case default =>
    intro s pattern default ih t' ht hn
    obtain ⟨pattern', _, rfl, hpattern, _⟩ := h.pair rfl ht
    exact ih pattern' hpattern hn
  case rest =>
    intro dots s pattern type ih t' ht hn
    obtain ⟨pattern', _, rfl, hpattern, _⟩ := h.pair rfl ht
    exact ih pattern' hpattern hn
  case other =>
    intro t hbinding harray hobject hkey hshorthand hdefault hrest t' _ hn
    have hnone : t.patternNames = [] := by
      rw [patternNames] <;> assumption
    rw [hnone] at hn
    cases hn
  case nil => exact fun _ _ hn => nomatch hn
  case cons =>
    intro u us hu hus ts' hall hn
    obtain ⟨u', us', hhead, htail, rfl⟩ := List.forall₂_cons_left_iff.mp hall
    rcases List.mem_append.mp hn with hn | hn
    · exact List.mem_append_left _ (hu u' hhead hn)
    · exact List.mem_append_right _ (hus us' htail hn)

/-! ## Declarations and items -/

namespace Tree

/-- The names that a declarator binds. -/
def declaratorNames : Tree → List String
  | declarator _ _ pattern _ => pattern.patternNames
  | _ => []

/-- The name of a declared function or class. -/
def ownName? : Tree → Option String
  | node (.functionDecl _) _ [ident _ n _, _] => some n
  | node (.classDecl _) _ [ident _ n _, _] => some n
  | _ => none

/-- The name of a function or class that an item exports by default. -/
def defaultName? : Tree → Option String
  | node (.item .exportDefaultDecl) _ [functionExpr (ident _ n _) _] => some n
  | node (.item .exportDefaultDecl) _ [node (.expression .classExpr) _ [ident _ n _, _]] => some n
  | _ => none

/-- The names that an item declares, that of a default export included. -/
def declares (item : Tree) : List String := item.itemNames ++ item.defaultName?.toList

theorem mem_declares {item : Tree} {n : String} :
    n ∈ item.declares ↔ n ∈ item.itemNames ∨ item.defaultName? = some n := by
  rw [declares, List.mem_append, Option.mem_toList]

theorem declares_of_isImport {item : Tree} (h : item.kind.isImport = true) :
    item.declares = item.importNames := by
  have hitem : item.itemNames = item.importNames := by
    unfold itemNames
    split
    · rfl
    · cases h
    · cases h
    · rename_i hother _ _
      unfold importNames
      split
      · exact absurd rfl (hother _ _ _ _ _ _)
      · rfl
  have hdefault : item.defaultName? = none := by
    unfold defaultName?
    split
    · cases h
    · cases h
    · rfl
  rw [declares, hitem, hdefault]
  exact List.append_nil _

theorem declares_exportDecl (s : Span) (d : Tree) : (exportDecl s d).declares = d.declaredNames :=
  List.append_nil _

theorem declares_declStmt (d : Tree) : (declStmt d).declares = d.declaredNames := List.append_nil _

theorem mem_declaredNames {d : Tree} {n : String} :
    n ∈ d.declaredNames ↔
      (∃ s keyword isDeclare ds, d = varDecl s keyword isDeclare ds ∧ n ∈ ds.flatMap declaratorNames) ∨
        d.ownName? = some n := by
  constructor
  · intro h
    unfold declaredNames at h
    split at h
    · exact Or.inl ⟨_, _, _, _, rfl, h⟩
    · exact Or.inr (congrArg some (List.mem_singleton.mp h).symm)
    · exact Or.inr (congrArg some (List.mem_singleton.mp h).symm)
    · cases h
  · rintro (⟨s, keyword, isDeclare, ds, rfl, h⟩ | h)
    · exact h
    · unfold ownName? at h
      split at h
      · exact List.mem_singleton.mpr (Option.some.inj h).symm
      · exact List.mem_singleton.mpr (Option.some.inj h).symm
      · cases h

theorem mem_itemNames {item : Tree} {n : String} :
    n ∈ item.itemNames ↔
      n ∈ item.importNames ∨
        ∃ d, ((∃ s, item = exportDecl s d) ∨ item = declStmt d) ∧ n ∈ d.declaredNames := by
  constructor
  · intro h
    unfold itemNames at h
    split at h
    · exact Or.inl h
    · exact Or.inr ⟨_, Or.inl ⟨_, rfl⟩, h⟩
    · exact Or.inr ⟨_, Or.inr rfl, h⟩
    · cases h
  · rintro (h | ⟨d, ⟨s, rfl⟩ | rfl, h⟩)
    · unfold importNames at h
      split at h
      · exact h
      · cases h
    · exact h
    · exact h

end Tree

namespace Keeps

variable {becomes : Tree → Tree → Prop} {n : String} {t t' : Tree}

theorem ownName? (h : Keeps Kind.isNaming becomes) (ht : becomes t t') (hn : t.ownName? = some n) :
    t'.ownName? = some n := by
  unfold Tree.ownName? at hn
  split at hn
  · obtain ⟨_, _, rfl, hname, _⟩ := h.pair rfl ht
    rw [h.leaf rfl hname]
    exact hn
  · obtain ⟨_, _, rfl, hname, _⟩ := h.pair rfl ht
    rw [h.leaf rfl hname]
    exact hn
  · cases hn

theorem defaultName? (h : Keeps Kind.isNaming becomes) (ht : becomes t t') (hn : t.defaultName? = some n) :
    t'.defaultName? = some n := by
  unfold Tree.defaultName? at hn
  split at hn
  · obtain ⟨_, rfl, hfunction⟩ := h.single rfl ht
    obtain ⟨_, _, rfl, hname, _⟩ := h.pair rfl hfunction
    rw [h.leaf rfl hname]
    exact hn
  · obtain ⟨_, rfl, hclass⟩ := h.single rfl ht
    obtain ⟨_, _, rfl, hname, _⟩ := h.pair rfl hclass
    rw [h.leaf rfl hname]
    exact hn
  · cases hn

/-! Where calls are all that a pass changes, every name of an item can be followed. -/

theorem naming (h : Keeps (fun k => k != .call) becomes) : Keeps Kind.isNaming becomes := by
  intro k s cs t hk ht
  refine h k s cs t (bne_iff_ne.mpr ?_) ht
  rintro rfl
  cases hk

theorem importedLocal? (h : Keeps (fun k => k != .call) becomes) (ht : becomes t t')
    (hn : t.importedLocal? = some n) : t'.importedLocal? = some n := by
  unfold Tree.importedLocal? at hn
  split at hn
  · obtain ⟨_, _, rfl, hbound, _⟩ := h.pair rfl ht
    rw [h.leaf rfl hbound]
    exact hn
  · obtain ⟨_, rfl, hbound⟩ := h.single rfl ht
    rw [h.leaf rfl hbound]
    exact hn
  · obtain ⟨_, rfl, hbound⟩ := h.single rfl ht
    rw [h.leaf rfl hbound]
    exact hn
  · cases hn

theorem mem_importNames (h : Keeps (fun k => k != .call) becomes) (ht : becomes t t')
    (hn : n ∈ t.importNames) : n ∈ t'.importNames := by
  unfold Tree.importNames at hn
  split at hn
  · obtain ⟨cs', rfl, hcs⟩ := h _ _ _ _ rfl ht
    obtain ⟨_, _, hlist, hsource, rfl⟩ := List.forall₂_cons_left_iff.mp hcs
    obtain ⟨_, _, _, hattributes, rfl⟩ := List.forall₂_cons_left_iff.mp hsource
    obtain ⟨_, _, _, hnil, rfl⟩ := List.forall₂_cons_left_iff.mp hattributes
    obtain rfl := List.forall₂_nil_left_iff.mp hnil
    obtain ⟨specifiers', rfl, hspecifiers⟩ := h _ _ _ _ rfl hlist
    obtain ⟨u, hu, hlocal⟩ := List.mem_filterMap.mp hn
    obtain ⟨u', hu', hbecomes⟩ := exists_of_forall₂ hspecifiers hu
    exact List.mem_filterMap.mpr ⟨u', hu', h.importedLocal? hbecomes hlocal⟩
  · cases hn

theorem mem_declaredNames (h : Keeps (fun k => k != .call) becomes) (ht : becomes t t')
    (hn : n ∈ t.declaredNames) : n ∈ t'.declaredNames := by
  have hnaming := h.naming
  rcases Tree.mem_declaredNames.mp hn with ⟨s, keyword, isDeclare, ds, rfl, hvariable⟩ | hn
  · obtain ⟨_, rfl, hlist⟩ := h.single rfl ht
    obtain ⟨ds', rfl, hds⟩ := h _ _ _ _ rfl hlist
    obtain ⟨d, hd, hname⟩ := List.mem_flatMap.mp hvariable
    obtain ⟨d', hd', hbecomes⟩ := exists_of_forall₂ hds hd
    refine Tree.mem_declaredNames.mpr (Or.inl ⟨_, _, _, ds', rfl, List.mem_flatMap.mpr ⟨d', hd', ?_⟩⟩)
    unfold declaratorNames at hname
    split at hname
    · obtain ⟨_, _, rfl, hpattern, _⟩ := h.pair rfl hbecomes
      exact hnaming.mem_patternNames hpattern hname
    · cases hname
  · exact Tree.mem_declaredNames.mpr (Or.inr (hnaming.ownName? ht hn))

theorem mem_declares (h : Keeps (fun k => k != .call) becomes) (ht : becomes t t')
    (hn : n ∈ t.declares) : n ∈ t'.declares := by
  have hnaming := h.naming
  rcases Tree.mem_declares.mp hn with hn | hn
  · refine Tree.mem_declares.mpr (Or.inl (mem_itemNames.mpr ?_))
    rcases mem_itemNames.mp hn with hn | ⟨d, ⟨s, rfl⟩ | rfl, hn⟩
    · exact Or.inl (h.mem_importNames ht hn)
    · obtain ⟨d', rfl, hd⟩ := h.single rfl ht
      exact Or.inr ⟨d', Or.inl ⟨s, rfl⟩, h.mem_declaredNames hd hn⟩
    · obtain ⟨d', rfl, hd⟩ := h.single rfl ht
      exact Or.inr ⟨d', Or.inr rfl, h.mem_declaredNames hd hn⟩
  · exact Tree.mem_declares.mpr (Or.inr (hnaming.defaultName? ht hn))

end Keeps

/-! ## The two passes -/

/-- The traversal turns one tree into the other. -/
def Setting.Converts (env : Setting) (t t' : Tree) : Prop := ∃ p, (t.convert env p).1 = t'

theorem converts_convertAmong {env : Setting} {cs : List Tree} {p : Progress} :
    List.Forall₂ env.Converts cs (convertAmong env cs p).1 := by
  induction cs generalizing p with
  | nil => exact .nil
  | cons c cs ih => exact .cons ⟨p, rfl⟩ ih

theorem keeps_converts (env : Setting) : Keeps Kind.isNaming env.Converts := by
  rintro k s cs t hk ⟨p, rfl⟩
  have hconvert : (node k s cs).convert env p =
      (node k s (convertAmong env cs p).1, (convertAmong env cs p).2) := by
    refine convert_of_isPassive env ?_ ?_ ?_ s cs p
    · unfold Kind.isNaming at hk
      split at hk <;> simp_all [Kind.isPassive, Kind.isStatement]
    · rintro definite rfl
      cases hk
    · rintro rfl
      cases hk
  exact ⟨_, congrArg Prod.fst hconvert, converts_convertAmong⟩

/-- What is read in a converted tree was there before. -/
theorem keeps_converts_back (env : Setting) : Keeps Kind.isNaming fun t' t => env.Converts t t' := by
  rintro k s cs' t hk ⟨p, ht⟩
  have hinert : k.isInert = true := by
    unfold Kind.isInert
    split <;> simp_all [Kind.isNaming]
  obtain ⟨cs, rfl, rfl⟩ := convert_eq_inert ht hinert
  exact ⟨cs, rfl, converts_convertAmong.flip⟩

theorem keeps_wrapSteps : Keeps (fun k => k != .call) fun t t' => t.wrapSteps = t' := by
  rintro k s cs t hk rfl
  refine ⟨_, wrapSteps_of_ne (bne_iff_ne.mp hk), ?_⟩
  rw [List.forall₂_map_right_iff]
  exact List.forall₂_same.mpr fun _ _ => rfl

theorem keeps_wrapSteps_back : Keeps (fun k => k != .call) fun t' t => t.wrapSteps = t' := by
  intro k s cs' t hk ht
  obtain ⟨cs, rfl, rfl⟩ := wrapSteps_eq_node ht (bne_iff_ne.mp hk)
  refine ⟨cs, rfl, ?_⟩
  rw [List.forall₂_map_left_iff]
  exact List.forall₂_same.mpr fun _ _ => rfl

/-- Steps are wrapped below the names of an item. -/
theorem Tree.mem_declares_wrapSteps {item : Tree} {n : String} :
    n ∈ item.wrapSteps.declares ↔ n ∈ item.declares :=
  ⟨keeps_wrapSteps_back.mem_declares rfl, keeps_wrapSteps.mem_declares rfl⟩

end JourneyMigration
