import DeployForge.Proofs.Disk.Furnishing

/-!
Two disks that differ only in what nobody has looked at yet. What is done to both of them in the
same way has the same result, and leaves them so.
-/

namespace DeployForge

inductive SameKind : Option Node → Option Node → Prop
  | absent : SameKind none none
  | directory : SameKind (some .directory) (some .directory)
  | file {c c' r r'} : SameKind (some (.file c r)) (some (.file c' r'))

inductive SameContent : Option Node → Option Node → Prop
  | absent : SameContent none none
  | directory : SameContent (some .directory) (some .directory)
  | file {c r r'} : SameContent (some (.file c r)) (some (.file c r'))

instance : ∀ m n, Decidable (SameKind m n)
  | none, none => isTrue .absent
  | none, some _ => isFalse nofun
  | some _, none => isFalse nofun
  | some .directory, some .directory => isTrue .directory
  | some .directory, some (.file _ _) => isFalse nofun
  | some (.file _ _), some .directory => isFalse nofun
  | some (.file _ _), some (.file _ _) => isTrue .file

lemma SameContent.sameKind {m n : Option Node} (h : SameContent m n) : SameKind m n := by
  cases h with
  | absent => exact .absent
  | directory => exact .directory
  | file => exact .file

lemma SameContent.directory_right {m n : Option Node} (h : SameContent m n)
    (hm : m = some .directory) : n = some .directory := by
  cases h with
  | absent => exact hm
  | directory => rfl
  | file => cases hm

namespace Tree

variable {t t' : Tree} {from_ at_ l k : Location} {names : List String} {p : Path}

lemma walk_congr (h : ∀ k ∈ Path.placesFrom at_ names, SameKind (t.find? k) (t'.find? k)) :
    t.walk at_ names = t'.walk at_ names := by
  induction names generalizing at_ with
  | nil => rfl
  | cons name rest ih =>
    have hat := h at_ List.mem_cons_self
    have hrest : t.walk (Path.stepTo at_ name) rest = t'.walk (Path.stepTo at_ name) rest :=
      ih fun k hk => h k (List.mem_cons_of_mem _ hk)
    rw [walk, walk]
    generalize t.find? at_ = m, t'.find? at_ = m' at hat
    cases hat with
    | absent => rfl
    | file => rfl
    | directory =>
      by_cases hup : name = ".."
      · simpa [hup, Path.stepTo] using hrest
      · simp only [Path.stepTo, if_neg hup] at hrest
        simp only [if_neg hup, hrest]

lemma follow_congr (h : ∀ k ∈ Path.placesFrom (p.start from_) names,
    SameKind (t.find? k) (t'.find? k)) : t.follow from_ p names = t'.follow from_ p names := by
  have hwalk := walk_congr h
  rw [Path.start] at hwalk
  rw [follow, follow, hwalk]

end Tree

/-- The files of a run and those among them that it removes, a directory that it makes, and the
places that are of one kind on both sides. On the way to what is loose directories may be missing,
so no other path may cross it. -/
structure Terrain where
  place : Location
  files : List Path
  stale : List Path
  dir : Path
  same : Location → Prop
  loose : Path → Prop
  distinct : ∀ p ∈ files, ∀ q ∈ files, loose q → p.location place = q.location place → p = q
  apart : ∀ p ∈ files, ∀ q ∈ files, loose q →
    p.location place ∉ q.way place ∧ q.location place ∉ p.way place
  outside : ∀ q ∈ files, loose q → q.location place ∉ dir.inside place
  looseDir : Prop
  plainDir : looseDir → dir.endsInDot = false
  outsideDir : looseDir → ∀ q ∈ files, q.location place ∉ dir.inside place

def Terrain.Fixed (T : Terrain) (p : Path) : Prop := ∀ k ∈ p.way T.place, T.same k

/-- Files may differ as long as their content is not known, where a write would replace them. -/
structure Tree.Twins (T : Terrain) (known : List Location) (t t' : Tree) : Prop where
  kinds : ∀ k, T.same k → SameKind (t.find? k) (t'.find? k)
  contents : ∀ k ∈ known, SameContent (t.find? k) (t'.find? k)
  files : ∀ p ∈ T.files,
    SameContent (t.find? (p.location T.place)) (t'.find? (p.location T.place)) ∨
      t.MayHold T.place p ∧ t'.MayHold T.place p
  loose : ∀ q ∈ T.files, T.loose q →
    (t.Opens T.place q ∧ t.MayHold T.place q) ∧ t'.Opens T.place q ∧ t'.MayHold T.place q
  dir : T.looseDir → t.IsClear (T.dir.start T.place) (T.dir.names ++ [".."]) ∧
    t'.IsClear (T.dir.start T.place) (T.dir.names ++ [".."])

namespace Tree.Twins

variable {T : Terrain} {known known' places : List Location} {t t' t₁ t₁' : Tree} {l : Location}
  {p : Path}

lemma mono (h : t.Twins T known t') (hsub : ∀ k ∈ known', k ∈ known) : t.Twins T known' t' :=
  ⟨h.kinds, fun k hk => h.contents k (hsub k hk), h.files, h.loose, h.dir⟩

lemma change (h : t.Twins T known t') (hc : t.ChangesAt l t₁) (hc' : t'.ChangesAt l t₁')
    (hl : SameContent (t₁.find? l) (t₁'.find? l))
    (hway : ∀ q ∈ T.files, T.loose q → l ∈ q.way T.place → t₁.find? l = some .directory)
    (hdir : T.looseDir → l ∈ T.dir.inside T.place → t₁.find? l = some .directory)
    (hheld : ∀ q ∈ T.files, T.loose q → q.location T.place = l →
      t₁.MayHold T.place q ∧ t₁'.MayHold T.place q) : t₁.Twins T (l :: known) t₁' where
  kinds k hk := by
    by_cases heq : k = l
    · exact heq ▸ hl.sameKind
    · rw [hc.elsewhere k heq, hc'.elsewhere k heq]
      exact h.kinds k hk
  contents k hk := by
    by_cases heq : k = l
    · exact heq ▸ hl
    · rw [hc.elsewhere k heq, hc'.elsewhere k heq]
      exact h.contents k (List.mem_of_ne_of_mem heq hk)
  files p hp := by
    by_cases heq : p.location T.place = l
    · exact .inl (heq ▸ hl)
    · rw [hc.elsewhere _ heq, hc'.elsewhere _ heq]
      exact (h.files p hp).imp_right fun ⟨hm, hm'⟩ => ⟨hm.changesAt hc heq, hm'.changesAt hc' heq⟩
  loose q hq hloose := by
    obtain ⟨⟨ho, hm⟩, ho', hm'⟩ := h.loose q hq hloose
    have hopens : t₁.Opens T.place q :=
      ho.changesAt hc fun hk c r => by simp [hway q hq hloose hk]
    have hopens' : t₁'.Opens T.place q :=
      ho'.changesAt hc' fun hk c r => by simp [hl.directory_right (hway q hq hloose hk)]
    by_cases heq : q.location T.place = l
    · obtain ⟨hheld, hheld'⟩ := hheld q hq hloose heq
      exact ⟨⟨hopens, hheld⟩, hopens', hheld'⟩
    · exact ⟨⟨hopens, hm.changesAt hc heq⟩, hopens', hm'.changesAt hc' heq⟩
  dir hloose := by
    obtain ⟨hclear, hclear'⟩ := h.dir hloose
    exact ⟨hclear.changesAt hc fun hk c r => by simp [hdir hloose hk],
      hclear'.changesAt hc' fun hk c r => by simp [hl.directory_right (hdir hloose hk)]⟩

lemma change_file (h : t.Twins T known t') (hp : p ∈ T.files)
    (hc : t.ChangesAt (p.location T.place) t₁) (hc' : t'.ChangesAt (p.location T.place) t₁')
    (hl : SameContent (t₁.find? (p.location T.place)) (t₁'.find? (p.location T.place)))
    (hheld : t₁.MayHold T.place p ∧ t₁'.MayHold T.place p) :
    t₁.Twins T (p.location T.place :: known) t₁' := by
  refine h.change hc hc' hl (fun q hq hloose hk => ?_) (fun hloose hk => ?_)
    fun q hq hloose heq => ?_
  · exact absurd hk (T.apart p hp q hq hloose).1
  · exact absurd hk (T.outsideDir hloose p hp)
  · obtain rfl := T.distinct p hp q hq hloose heq.symm
    exact hheld

lemma furnish (h : t.Twins T known t') (hf : t.Furnishes places t₁)
    (hf' : t'.Furnishes places t₁') (hout : ∀ q ∈ T.files, q.location T.place ∉ places) :
    t₁.Twins T known t₁' where
  kinds k hk := by
    by_cases hmem : k ∈ places
    · rw [hf.present k hmem, hf'.present k hmem]
      exact .directory
    · rw [hf.elsewhere k hmem, hf'.elsewhere k hmem]
      exact h.kinds k hk
  contents k hk := by
    by_cases hmem : k ∈ places
    · rw [hf.present k hmem, hf'.present k hmem]
      exact .directory
    · rw [hf.elsewhere k hmem, hf'.elsewhere k hmem]
      exact h.contents k hk
  files p hp := by
    have hp' := hout p hp
    rw [hf.elsewhere _ hp', hf'.elsewhere _ hp']
    exact (h.files p hp).imp_right fun ⟨hm, hm'⟩ => ⟨hm.furnishes hf hp', hm'.furnishes hf' hp'⟩
  loose q hq hloose := by
    obtain ⟨⟨ho, hm⟩, ho', hm'⟩ := h.loose q hq hloose
    have hq' := hout q hq
    exact ⟨⟨ho.furnishes hf, hm.furnishes hf hq'⟩, ho'.furnishes hf', hm'.furnishes hf' hq'⟩
  dir hloose := ⟨(h.dir hloose).1.furnishes hf, (h.dir hloose).2.furnishes hf'⟩

lemma locate_eq (h : t.Twins T known t') (hfixed : T.Fixed p) :
    t.locate T.place p = t'.locate T.place p :=
  follow_congr fun k hk => h.kinds k (hfixed k (List.mem_cons_of_mem _ hk))

lemma files_cases (h : t.Twins T known t') (hp : p ∈ T.files) (hfixed : T.Fixed p) :
    SameContent (t.find? (p.location T.place)) (t'.find? (p.location T.place)) ∨
      t.IsTarget T.place p (p.location T.place) ∧ t'.IsTarget T.place p (p.location T.place) := by
  have hloc := h.locate_eq hfixed
  rcases h.files p hp with hsame | ⟨hnone | ht, hnone' | ht'⟩
  · exact .inl hsame
  · left
    rw [hnone, hnone']
    exact .absent
  · exact .inr ⟨⟨ht'.slash, ht'.dot, hloc.trans ht'.located, by simp [hnone]⟩, ht'⟩
  · exact .inr ⟨ht, ht.slash, ht.dot, hloc.symm.trans ht.located, by simp [hnone']⟩
  · exact .inr ⟨ht, ht'⟩

lemma read_eq (h : t.Twins T known t') (hp : p ∈ T.files) (hleads : T.Fixed p ∨ T.loose p)
    (hk : p.location T.place ∈ known) : t.read T.place p = t'.read T.place p := by
  have hsame := h.contents _ hk
  rcases hleads with hfixed | hloose
  · have hloc := h.locate_eq hfixed
    rw [read, read]
    cases hl : t'.locate T.place p with
    | error e =>
      rw [status, status, hloc, hl]
      rfl
    | ok l =>
      obtain rfl := location_of_locate hl
      rw [status_eq_of_locate hl, status_eq_of_locate (hloc.trans hl)]
      generalize t.find? (p.location T.place) = m, t'.find? (p.location T.place) = m' at hsame
      cases hsame with
      | absent => rfl
      | directory => rfl
      | file => split_ifs <;> rfl
  · obtain ⟨⟨ho, hm⟩, ho', hm'⟩ := h.loose p hp hloose
    generalize hn : t.find? (p.location T.place) = m, hn' : t'.find? (p.location T.place) = m'
      at hsame
    cases hsame with
    | absent => rw [ho.read_of_absent hn, ho'.read_of_absent hn']
    | directory => exact absurd hn hm.ne_directory
    | file =>
      have ht := hm.resolve_left (by simp [hn])
      have ht' := hm'.resolve_left (by simp [hn'])
      rw [ht.read_eq hn, ht'.read_eq hn']

lemma target_cases (h : t.Twins T known t') (hp : p ∈ T.files) (hfixed : T.Fixed p) :
    (∃ e, t.target T.place p = .error e ∧ t'.target T.place p = .error e) ∨
      ∃ r r', t.target T.place p = .ok (p.location T.place, r) ∧
        t'.target T.place p = .ok (p.location T.place, r') := by
  rcases h.files_cases hp hfixed with hsame | ⟨ht, ht'⟩
  · by_cases hs : (p.endsInSlash && !p.endsInDot) = true
    · left
      have hfollow : t.follow T.place p (p.names.dropLast ++ [".."]) =
          t'.follow T.place p (p.names.dropLast ++ [".."]) :=
        follow_congr fun k hk => h.kinds k (hfixed k (Path.mem_placesFrom_dropLast hk))
      rw [target, target, if_pos hs, if_pos hs, hfollow]
      cases t'.follow T.place p (p.names.dropLast ++ [".."]) with
      | error e => exact ⟨e, rfl, rfl⟩
      | ok l => exact ⟨_, rfl, rfl⟩
    · have hloc := h.locate_eq hfixed
      cases hl : t'.locate T.place p with
      | error e =>
        left
        rw [target, target, if_neg hs, if_neg hs, hloc, hl]
        exact ⟨e, rfl, rfl⟩
      | ok l =>
        obtain rfl := location_of_locate hl
        rw [target_eq_of_locate hs hl, target_eq_of_locate hs (hloc.trans hl)]
        generalize t.find? (p.location T.place) = m, t'.find? (p.location T.place) = m' at hsame
        cases hsame with
        | absent =>
          by_cases hd : p.endsInDot = true
          · exact .inl ⟨.os .noEntry, by simp [hd]⟩
          · exact .inr ⟨false, false, by simp [hd]⟩
        | directory => exact .inl ⟨.os .isDirectory, rfl, rfl⟩
        | @file c r r' =>
          by_cases hd : p.endsInDot = true
          · exact .inl ⟨.os .notDirectory, by simp [hd]⟩
          · exact .inr ⟨r, r', by simp [hd]⟩
  · obtain ⟨r, hr⟩ := ht.target_eq
    obtain ⟨r', hr'⟩ := ht'.target_eq
    exact .inr ⟨r, r', hr, hr'⟩

lemma insert_file (h : t.Twins T known t') (hp : p ∈ T.files) (content : ByteArray) {r r' : Bool}
    (hr : t.target T.place p = .ok (p.location T.place, r))
    (hr' : t'.target T.place p = .ok (p.location T.place, r')) :
    (t.insert (p.location T.place) (.file content r)).Twins T (p.location T.place :: known)
      (t'.insert (p.location T.place) (.file content r')) := by
  have ht := isTarget_of_target hr
  have ht' := isTarget_of_target hr'
  refine h.change_file hp (changesAt_insert ht.free) (changesAt_insert ht'.free) ?_
    ⟨.inr (ht.insert content r), .inr (ht'.insert content r')⟩
  rw [find?_insert_self (ne_nil_of_find? ht.free), find?_insert_self (ne_nil_of_find? ht'.free)]
  exact .file

lemma know (h : t.Twins T known t') (hl : SameContent (t.find? l) (t'.find? l)) :
    t.Twins T (l :: known) t' :=
  ⟨h.kinds, List.forall_mem_cons.mpr ⟨hl, h.contents⟩, h.files, h.loose, h.dir⟩

section Removal

variable {held held' : Location → Option Refusal}

lemma cleared (h : t.Twins T known t') (hp : p ∈ T.files) (hc : t.Clears held T.place p t₁)
    (hc' : t'.Clears held' T.place p t₁') : t₁.Twins T (p.location T.place :: known) t₁' := by
  refine h.change_file hp hc.changesAt hc'.changesAt ?_ ⟨.inl hc.gone, .inl hc'.gone⟩
  rw [hc.gone, hc'.gone]
  exact .absent

def Drops (T : Terrain) (known : List Location) (held held' : Location → Option Refusal)
    (t t' : Tree) (p : Path) : Prop :=
  (∃ e, t.remove held T.place p = .error e ∧ t'.remove held' T.place p = .error e ∧
    (e = .os .noEntry → t.Twins T (p.location T.place :: known) t')) ∨
  ∃ t₁ t₁', t.Clears held T.place p t₁ ∧ t'.Clears held' T.place p t₁'

lemma drops_of_yields (hkind : held (p.location T.place) = none ∨
      SameKind (t.find? (p.location T.place)) (t'.find? (p.location T.place)))
    (hheld : held' (p.location T.place) = held (p.location T.place))
    (hy : t.Yields held T.place p) (hy' : t'.Yields held' T.place p) :
    Drops T known held held' t t' p := by
  cases hy with
  | cleared hfree hc =>
    cases hy' with
    | cleared hfree' hc' => exact .inr ⟨_, _, hc, hc'⟩
    | refused hfile' hrefused' he' =>
      rw [hheld] at hrefused'
      have hnone := hfree.resolve_left (by simp [hrefused'])
      have hsame := hkind.resolve_left (by simp [hrefused'])
      rw [hnone, hfile'] at hsame
      cases hsame
  | refused hfile hrefused he =>
    cases hy' with
    | cleared hfree' hc' =>
      have hnone' := hfree'.resolve_left (by simp [hheld, hrefused])
      have hsame := hkind.resolve_left (by simp [hrefused])
      rw [hnone', hfile] at hsame
      cases hsame
    | @refused _ _ refusal' hfile' hrefused' he' =>
      rw [hheld, hrefused] at hrefused'
      obtain rfl := Option.some.inj hrefused'
      exact .inl ⟨_, he, he', fun h => absurd (IoError.os.inj h) (Refusal.present _)⟩

lemma drops_of_sameContent (h : t.Twins T known t') (hfixed : T.Fixed p)
    (hsame : SameContent (t.find? (p.location T.place)) (t'.find? (p.location T.place)))
    (hdrops : t.Yields held T.place p → t'.Yields held' T.place p →
      Drops T known held held' t t' p) : Drops T known held held' t t' p := by
  have hknown := h.know hsame
  have hloc := h.locate_eq hfixed
  cases hl : t'.locate T.place p with
  | error e =>
    left
    rw [remove, remove, hloc, hl]
    exact ⟨e, rfl, rfl, fun _ => hknown⟩
  | ok l =>
    obtain rfl := location_of_locate hl
    have hremove : t.remove held T.place p = _ := remove_eq_of_locate (hloc.trans hl)
    have hremove' : t'.remove held' T.place p = _ := remove_eq_of_locate hl
    generalize hm : t.find? (p.location T.place) = m,
      hm' : t'.find? (p.location T.place) = m' at hsame
    rw [hm] at hremove
    rw [hm'] at hremove'
    cases hsame with
    | absent => exact .inl ⟨_, hremove, hremove', fun _ => hknown⟩
    | directory => exact .inl ⟨_, hremove, hremove', fun _ => hknown⟩
    | file =>
      by_cases hs : (p.endsInSlash || p.endsInDot) = true
      · simp only [if_pos hs] at hremove hremove'
        exact .inl ⟨.os .notDirectory, hremove, hremove', fun _ => hknown⟩
      · rw [Bool.not_eq_true, Bool.or_eq_false_iff] at hs
        have ht : t.IsTarget T.place p (p.location T.place) :=
          ⟨hs.1, hs.2, hloc.trans hl, by simp [hm]⟩
        have ht' : t'.IsTarget T.place p (p.location T.place) :=
          ⟨hs.1, hs.2, hl, by simp [hm']⟩
        exact hdrops ht.yields ht'.yields

lemma remove_cases (h : t.Twins T known t') (hp : p ∈ T.files) (hleads : T.Fixed p ∨ T.loose p)
    (hkind : held (p.location T.place) = none ∨ T.same (p.location T.place))
    (hheld : held' (p.location T.place) = held (p.location T.place)) :
    Drops T known held held' t t' p := by
  have hdrops : t.Yields held T.place p → t'.Yields held' T.place p →
      Drops T known held held' t t' p :=
    drops_of_yields (hkind.imp_right (h.kinds _)) hheld
  rcases hleads with hfixed | hloose
  · rcases h.files_cases hp hfixed with hsame | ⟨ht, ht'⟩
    · exact h.drops_of_sameContent hfixed hsame hdrops
    · exact hdrops ht.yields ht'.yields
  · obtain ⟨⟨ho, hm⟩, ho', hm'⟩ := h.loose p hp hloose
    exact hdrops (ho.yields hm) (ho'.yields hm')

end Removal

lemma make_directory (h : t.Twins T known t')
    (hl : ∀ q ∈ T.files, T.loose q → q.location T.place ≠ l) (hf : t.find? l = none)
    (hf' : t'.find? l = none) :
    (t.insert l .directory).Twins T known (t'.insert l .directory) := by
  have hfree : t.find? l ≠ some .directory := by simp [hf]
  have hfree' : t'.find? l ≠ some .directory := by simp [hf']
  have hmade : (t.insert l .directory).find? l = some .directory :=
    find?_insert_self (ne_nil_of_find? hfree)
  have hmade' : (t'.insert l .directory).find? l = some .directory :=
    find?_insert_self (ne_nil_of_find? hfree')
  have hsame : SameContent ((t.insert l .directory).find? l)
      ((t'.insert l .directory).find? l) := by
    rw [hmade, hmade']
    exact .directory
  have htwins : (t.insert l .directory).Twins T (l :: known) (t'.insert l .directory) :=
    h.change (changesAt_insert hfree) (changesAt_insert hfree') hsame (fun _ _ _ _ => hmade)
      (fun _ _ => hmade) fun q hq hloose heq => absurd heq (hl q hq hloose)
  exact htwins.mono fun k hk => List.mem_cons_of_mem _ hk

lemma createChain (dotted made : Bool) {names : List String} {at_ : Location}
    (h : t.Twins T known t')
    (hways : ∀ k ∈ Path.placesFrom at_ (names ++ [".."]),
      T.same k ∧ ∀ q ∈ T.files, T.loose q → q.location T.place ≠ k) :
    (t.createChain dotted made at_ names).1 = (t'.createChain dotted made at_ names).1 ∧
      (t.createChain dotted made at_ names).2.Twins T known
        (t'.createChain dotted made at_ names).2 := by
  induction names generalizing at_ made t t' with
  | nil => exact ⟨rfl, h⟩
  | cons name rest ih =>
    rw [List.cons_append, Path.placesFrom, List.forall_mem_cons] at hways
    obtain ⟨hat, hrest⟩ := hways
    have hwalk : t.walk at_ [name] = t'.walk at_ [name] := by
      refine walk_congr fun k hk => h.kinds k ?_
      obtain rfl : k = at_ := by simpa [Path.placesFrom] using hk
      exact hat.1
    rw [Tree.createChain, Tree.createChain, hwalk]
    cases hl : t'.walk at_ [name] with
    | error e => exact ⟨rfl, h⟩
    | ok l =>
      obtain rfl : l = Path.stepTo at_ name := (walk_eq_ok.mp hl).2
      obtain ⟨hsame, hloose⟩ := hrest _ Path.mem_placesFrom_append
      have hkind := h.kinds _ hsame
      have hmade := h.make_directory hloose
      generalize hm : t.find? (Path.stepTo at_ name) = m, hm' : t'.find? (Path.stepTo at_ name) = m'
        at hkind hmade
      cases hkind with
      | absent =>
        simp only [hm, hm']
        by_cases hend : (dotted && rest = []) = true
        · rw [if_pos hend, if_pos hend]
          exact ⟨rfl, h⟩
        · rw [if_neg hend, if_neg hend]
          exact ih true (hmade rfl rfl) hrest
      | directory =>
        simp only [hm, hm']
        exact ih made h hrest
      | file =>
        simp only [hm, hm']
        exact ⟨trivial, h⟩

lemma createDirectories (h : t.Twins T known t')
    (hdir : (∀ k ∈ T.dir.inside T.place, T.same k) ∨ T.looseDir) :
    (t.createDirectories T.place T.dir).1 = (t'.createDirectories T.place T.dir).1 ∧
      ((t.createDirectories T.place T.dir).1 = .ok () →
        (t.createDirectories T.place T.dir).2.Twins T known
            (t'.createDirectories T.place T.dir).2 ∧
          ∀ k ∈ T.dir.inside T.place,
            SameKind ((t.createDirectories T.place T.dir).2.find? k)
              ((t'.createDirectories T.place T.dir).2.find? k)) := by
  rw [Tree.createDirectories, Tree.createDirectories]
  by_cases hempty : T.dir.text.isEmpty = true
  · rw [if_pos hempty, if_pos hempty]
    refine ⟨rfl, fun _ => ⟨h, fun k hk => ?_⟩⟩
    rcases hdir with hsame | hloose
    · exact h.kinds k (hsame k hk)
    · obtain ⟨hclear, hclear'⟩ := h.dir hloose
      obtain rfl : k = T.dir.start T.place := by
        rw [Path.inside, Path.names, String.isEmpty_iff.mp hempty] at hk
        simpa [Path.placesFrom, Text.splitAt] using hk
      rw [hclear.base, hclear'.base]
      exact .directory
  by_cases hnul : T.dir.text.toList.contains '\x00' = true
  · rw [if_neg hempty, if_neg hempty, if_pos hnul, if_pos hnul]
    exact ⟨rfl, fun hok => by cases hok⟩
  by_cases hlong : T.dir.text.utf8ByteSize > 4095
  · rw [if_neg hempty, if_neg hempty, if_neg hnul, if_neg hnul, if_pos hlong, if_pos hlong]
    exact ⟨rfl, fun hok => by cases hok⟩
  rw [if_neg hempty, if_neg hempty, if_neg hnul, if_neg hnul, if_neg hlong, if_neg hlong]
  rcases hdir with hsame | hloose
  · have hways : ∀ k ∈ Path.placesFrom (T.dir.start T.place) (T.dir.names ++ [".."]),
        T.same k ∧ ∀ q ∈ T.files, T.loose q → q.location T.place ≠ k :=
      fun k hk => ⟨hsame k hk, fun q hq hloose heq => T.outside q hq hloose (heq ▸ hk)⟩
    have hchain := h.createChain T.dir.endsInDot false hways
    exact ⟨hchain.1, fun _ => ⟨hchain.2, fun k hk => hchain.2.kinds k (hsame k hk)⟩⟩
  · obtain ⟨hclear, hclear'⟩ := h.dir hloose
    have hmade := createChain_of_clear false hclear
    have hmade' := createChain_of_clear false hclear'
    rw [T.plainDir hloose]
    refine ⟨hmade.1.trans hmade'.1.symm, fun _ => ⟨?_, fun k hk => ?_⟩⟩
    · exact h.furnish hmade.2 hmade'.2 (T.outsideDir hloose)
    · have hdir := hmade.2.present k hk
      have hdir' := hmade'.2.present k hk
      rw [Path.start] at hdir hdir'
      rw [hdir, hdir']
      exact .directory

end Tree.Twins

end DeployForge
