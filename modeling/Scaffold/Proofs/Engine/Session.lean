/-
# Scaffold.Proofs.Engine.Session -- what an engine remembers over a session

A session is a sequence of things done with one engine: templates are loaded, files rendered,
written and generated, one or all of a request, and in between anybody may do anything to the files,
those of the template directory included.

Every turn says which templates it used, from which tree each was asked for, and how its reply
follows from what it got (`Turn.Draws`); a request that is generated uses one template for each kind
of file, in any order, while its own files are being written. The uses of the whole session, put one
after another, follow one rule (`FirstLoad`): the first use of a pair that succeeds decides what all
later ones get, and until then every use reads the source anew.

Changes by others fall between two turns, never into one, and are not restricted in any way.

The rule is an invariant of single uses (`lookup_of_load`) and holds for any number of them
(`lookup_of_uses`); that a turn does nothing with templates beyond its uses is `draws_of_done`.
-/

import Mathlib.Data.List.Nodup
import Scaffold.Proofs.Engine.Effect

namespace Scaffold

/-- Templates of different pairs are different files. -/
theorem TemplateSource.eq_of_fileName_eq {a b : Artifact} {l l' : Language}
    (h : fileName a l = fileName b l') : a = b ∧ l = l' := by
  revert h
  cases a <;> cases b <;> cases l <;> cases l' <;> decide

namespace Engine

variable {e e' e'' : Engine} {tree tree' : FileTree} {output p : Path} {r : Request} {a : Artifact}

/-! ## One use of a template -/

/-- A use of a template: which it was, what was in the tree, and what came of it. -/
structure Use where
  artifact : Artifact
  language : Language
  tree : FileTree
  outcome : Except Failure Text

/-- The pair that a use is of. -/
def Use.pair (u : Use) : Artifact × Language := (u.artifact, u.language)

/-- What is remembered after a use: what was remembered before, and what was loaded just now. -/
theorem lookup_of_load {l : Language} {outcome : Except Failure Text}
    (h : e.load tree a l = (outcome, e')) (k : Artifact × Language) :
    e'.loaded.lookup k =
      (e.loaded.lookup k).or (if (a, l) = k then outcome.toOption else none) := by
  unfold load at h
  split at h
  · rename_i text hlookup
    cases h
    split
    · rename_i hk
      rw [← hk, hlookup]
      rfl
    · rw [Option.or_none]
  · rename_i hlookup
    split at h
    · rename_i text hread
      cases h
      by_cases hk : (a, l) = k
      · subst hk
        simp [hlookup, Except.toOption]
      · have hne : (k == (a, l)) = false := beq_eq_false_iff_ne.2 (Ne.symm hk)
        rw [if_neg hk, Option.or_none, List.lookup_cons, hne]
    · cases h
      rw [show (Except.error _ : Except Failure Text).toOption = none from rfl, ite_self,
        Option.or_none]

theorem source_of_load {l : Language} {outcome : Except Failure Text}
    (h : e.load tree a l = (outcome, e')) : e'.source = e.source := by
  cases outcome with
  | error failure => rw [load_eq_error h]
  | ok text => exact (load_eq_ok h).2.1

/-- What a use gets: what is remembered, or else what the source holds at that time. -/
theorem load_outcome (e : Engine) (tree : FileTree) (a : Artifact) (l : Language) :
    (e.load tree a l).1 = match e.loaded.lookup (a, l) with
      | some text => .ok text
      | none => e.source.read tree (TemplateSource.fileName a l) := by
  unfold load
  cases e.loaded.lookup (a, l) with
  | some text => rfl
  | none => cases e.source.read tree (TemplateSource.fileName a l) <;> rfl

/-- Rendering is loading and then filling. -/
theorem render_eq_map (e : Engine) (tree : FileTree) (a : Artifact) (r : Request) :
    e.render tree a r =
      ((e.load tree a r.language).1.map (a.render r), (e.load tree a r.language).2) := by
  unfold render
  rcases e.load tree a r.language with ⟨failure | text, e'⟩ <;> rfl

/-- Loading the template of one pair changes nothing for another. -/
theorem load_after_load {b : Artifact} {l l' : Language} (h : (a, l) ≠ (b, l'))
    (later : FileTree) :
    ((e.load tree a l).2.load later b l').1 = (e.load later b l').1 := by
  rcases hload : e.load tree a l with ⟨outcome, e'⟩
  have hlookup : e'.loaded.lookup (b, l') = e.loaded.lookup (b, l') := by
    rw [lookup_of_load hload, if_neg h, Option.or_none]
  show (e'.load later b l').1 = (e.load later b l').1
  rw [load_outcome, load_outcome, hlookup, source_of_load hload]

/-- A file that is valid UTF-8 is read. -/
theorem read_of_file {path : Path} {l : Language} {content : Bytes} {text : Text}
    (hfile : tree.entry? (path.join ⟨.here, [TemplateSource.fileName a l]⟩) = some (.file content))
    (htext : Text.ofUtf8 content = .ok text) :
    (TemplateSource.directory path).read tree (TemplateSource.fileName a l) =
      .ok text.unifyLineEnds := by
  simp only [TemplateSource.read, nameParts?_fileName, hfile, htext]

/-! ## Uses one after another -/

/-- An engine that is used one time after another, by whomever and with whatever in the tree. -/
inductive Uses : Engine → List Use → Engine → Prop
  | nil {e : Engine} : Uses e [] e
  | cons {e e' e'' : Engine} {u : Use} {us : List Use}
      (h : e.load u.tree u.artifact u.language = (u.outcome, e')) (rest : Uses e' us e'') :
      Uses e (u :: us) e''

theorem Uses.single {u : Use} (h : e.load u.tree u.artifact u.language = (u.outcome, e')) :
    Uses e [u] e' :=
  .cons h .nil

theorem Uses.append {us vs : List Use} (h : Uses e us e') (h' : Uses e' vs e'') :
    Uses e (us ++ vs) e'' := by
  induction h with
  | nil => exact h'
  | cons huse _ ih => exact .cons huse (ih h')

theorem Uses.split {us vs : List Use} (h : Uses e (us ++ vs) e'') :
    ∃ e', Uses e us e' ∧ Uses e' vs e'' := by
  induction us generalizing e with
  | nil => exact ⟨e, .nil, h⟩
  | cons u us ih =>
      cases h with
      | cons huse hrest =>
          obtain ⟨e', hus, hvs⟩ := ih hrest
          exact ⟨e', .cons huse hus, hvs⟩

theorem Uses.source_eq {us : List Use} (h : Uses e us e') : e'.source = e.source := by
  induction h with
  | nil => rfl
  | cons huse _ ih => exact ih.trans (source_of_load huse)

/-- The text that the first successful use of a pair got. -/
def firstLoaded (k : Artifact × Language) (us : List Use) : Option Text :=
  us.findSome? fun u => if u.pair = k then u.outcome.toOption else none

theorem firstLoaded_cons (k : Artifact × Language) (u : Use) (us : List Use) :
    firstLoaded k (u :: us) =
      (if u.pair = k then u.outcome.toOption else none).or (firstLoaded k us) := by
  unfold firstLoaded
  rw [List.findSome?_cons]
  split
  · rename_i hsome
    rw [hsome, Option.some_or]
  · rename_i hnone
    rw [hnone, Option.none_or]

/-- What is remembered after any number of uses: for each pair what was remembered before, or else
what its first successful use got. -/
theorem lookup_of_uses {us : List Use} (h : Uses e us e') (k : Artifact × Language) :
    e'.loaded.lookup k = (e.loaded.lookup k).or (firstLoaded k us) := by
  induction h with
  | nil => exact Option.or_none.symm
  | cons huse _ ih =>
      rw [ih, lookup_of_load huse k, firstLoaded_cons, Option.or_assoc]
      rfl

/-- What was got once is remembered from then on. -/
theorem lookup_of_mem_uses {us : List Use} {u : Use} {text : Text} (h : Uses e us e') (hu : u ∈ us)
    (hgot : u.outcome = .ok text) : e'.loaded.lookup u.pair = some text := by
  obtain ⟨before, after, rfl⟩ := List.append_of_mem hu
  obtain ⟨e₁, -, hrest⟩ := h.split
  cases hrest with
  | cons huse hafter =>
      rw [hgot] at huse
      rw [lookup_of_uses hafter, Use.pair, (load_eq_ok huse).1, Option.some_or]

/-- **The rule of uses**: each gets what the first successful one of its pair has got, and where
there was none, what the source holds at that time. -/
def FirstLoad (source : TemplateSource) (us : List Use) : Prop :=
  ∀ before u after, us = before ++ u :: after →
    u.outcome = match firstLoaded u.pair before with
      | some text => .ok text
      | none => source.read u.tree (TemplateSource.fileName u.artifact u.language)

/-- An engine that remembers nothing yet is used by the rule. -/
theorem firstLoad_of_uses {source : TemplateSource} {us : List Use}
    (h : Uses ⟨source, []⟩ us e') : FirstLoad source us := by
  rintro before u after rfl
  obtain ⟨e, hbefore, hrest⟩ := h.split
  cases hrest with
  | cons huse _ =>
      have hlookup : e.loaded.lookup u.pair = firstLoaded u.pair before :=
        lookup_of_uses hbefore u.pair
      have houtcome := load_outcome e u.tree u.artifact u.language
      rw [huse, hbefore.source_eq] at houtcome
      rw [← hlookup]
      exact houtcome

/-! ## The uses of a request that is generated -/

/-- Whether what a kind of file got for a template goes with how far it has come. -/
def Fits (outcome : Except Failure Text) : Stage → Prop
  | .waiting => False
  | .making _ _ | .writing _ | .finished (.ok _) => ∃ text, outcome = .ok text
  | .finished (.error failure) =>
    outcome = .error failure ∨ (∃ text, outcome = .ok text) ∧ ∃ refusal, failure = .file refusal

/-- **One call**: a kind that has done nothing yet uses its template, and no other call does. -/
theorem use_of_step {x y : Ran Stage} (h : Stage.Step output r a x y) :
    (x.outcome = .waiting ∧ ∃ outcome,
      x.engine.load x.tree a r.language = (outcome, y.engine) ∧ Fits outcome y.outcome) ∨
    (x.outcome ≠ .waiting ∧ y.engine = x.engine ∧
      ∀ outcome, Fits outcome x.outcome → Fits outcome y.outcome) := by
  cases h with
  | rendered hrender =>
      obtain ⟨template, hload, -⟩ := render_eq_ok hrender
      exact .inl ⟨rfl, .ok template, hload, template, rfl⟩
  | unrendered hrender =>
      exact .inl ⟨rfl, .error _, load_of_render_error hrender, .inl rfl⟩
  | asked | made => exact .inr ⟨Stage.noConfusion, rfl, fun _ => id⟩
  | @opened e tree tree' f hover =>
      refine .inr ⟨Stage.noConfusion, rfl, fun _ hfits => ?_⟩
      show Fits _ (.finished (Stage.stored output f))
      unfold Stage.stored
      split
      · exact hfits
      · exact .inr ⟨hfits, _, rfl⟩
  | obstructed | unwritten =>
      exact .inr ⟨Stage.noConfusion, rfl, fun _ hfits => .inr ⟨hfits, _, rfl⟩⟩

/-- The kinds that have done nothing yet. -/
def stillWaiting (stages : Stages) : List Artifact :=
  stages.filterMap fun
    | (a, .waiting) => some a
    | _ => none

theorem stillWaiting_cons (k : Artifact × Stage) (stages : Stages) :
    (k.2 = .waiting → stillWaiting (k :: stages) = k.1 :: stillWaiting stages) ∧
      (k.2 ≠ .waiting → stillWaiting (k :: stages) = stillWaiting stages) := by
  obtain ⟨a, stage⟩ := k
  cases stage <;> simp [stillWaiting]

theorem stillWaiting_append (before after : Stages) :
    stillWaiting (before ++ after) = stillWaiting before ++ stillWaiting after :=
  List.filterMap_append

theorem stillWaiting_waiting (as : List Artifact) : stillWaiting (waiting as) = as := by
  induction as with
  | nil => rfl
  | cons a as ih => rw [waiting, List.map_cons, (stillWaiting_cons _ _).1 rfl, ← waiting, ih]

theorem stillWaiting_finished (outcomes : Outcomes) : stillWaiting (finished outcomes) = [] := by
  induction outcomes with
  | nil => rfl
  | cons k outcomes ih =>
      rw [finished, List.map_cons, (stillWaiting_cons _ _).2 Stage.noConfusion, ← finished, ih]

/-- Whatever the kinds have done so far, the tree has only grown by it. -/
theorem grown_of_reachable {as : List Artifact} {x : Ran Stages}
    (h : Steps output r ⟨waiting as, e, tree⟩ x) : GrownByFiles r tree x.tree := by
  have hinvariant : Since e tree r x.engine x.tree ∧
      ∀ k ∈ x.outcome, Known output r k.1 ⟨k.2, x.engine, x.tree⟩ := by
    refine invariant_of_steps _ since_of_step h ⟨.refl e tree r, fun k hk => ?_⟩
    obtain ⟨a, -, rfl⟩ := List.mem_map.1 hk
    trivial
  exact hinvariant.1.grown

/-- A kind that has done anything has used a template, and what it got goes with how far it is. -/
def Served (us : List Use) (k : Artifact × Stage) : Prop :=
  k.2 = .waiting ∨ ∃ u ∈ us, u.artifact = k.1 ∧ Fits u.outcome k.2

theorem Served.mono {us us' : List Use} {k : Artifact × Stage} (h : Served us k) (hsub : us ⊆ us') :
    Served us' k := by
  refine h.imp_right ?_
  rintro ⟨u, hu, hfits⟩
  exact ⟨u, hsub hu, hfits⟩

/-- A call of one kind leaves the others as they are served. -/
theorem served_of_moved {us us' : List Use} {before after : Stages} {stage stage' : Stage}
    (h : ∀ k ∈ before ++ (a, stage) :: after, Served us k) (hsub : us ⊆ us')
    (hself : Served us' (a, stage')) :
    ∀ k ∈ before ++ (a, stage') :: after, Served us' k := by
  simp only [List.forall_mem_append, List.forall_mem_cons] at h ⊢
  obtain ⟨hbefore, -, hafter⟩ := h
  exact ⟨fun k hk => (hbefore k hk).mono hsub, hself, fun k hk => (hafter k hk).mono hsub⟩

/-- What the calls made up to some point have used: a template for each kind that has begun, in the
language of the request and from the tree as it had become. -/
structure UsedBy (e : Engine) (tree : FileTree) (r : Request) (us : List Use) (x : Ran Stages) :
    Prop where
  uses : Uses e us x.engine
  kinds : (us.map Use.artifact ++ stillWaiting x.outcome).Perm (x.outcome.map Prod.fst)
  drawn : ∀ u ∈ us, u.language = r.language ∧ GrownByFiles r tree u.tree
  served : ∀ k ∈ x.outcome, Served us k

/-- A kind that begins is no longer among those that wait, and has used its template. -/
theorem perm_stillWaiting_of_begun {used : List Artifact} {before after : Stages} {stage : Stage}
    (hstage : stage ≠ .waiting) :
    (used ++ stillWaiting (before ++ (a, .waiting) :: after)).Perm
      ((used ++ [a]) ++ stillWaiting (before ++ (a, stage) :: after)) := by
  rw [stillWaiting_append, stillWaiting_append, (stillWaiting_cons _ _).1 rfl,
    (stillWaiting_cons _ _).2 hstage, List.append_assoc used [a]]
  exact List.perm_middle.append_left used

theorem stillWaiting_of_begun {before after : Stages} {stage stage' : Stage}
    (h : stage ≠ .waiting) (h' : stage' ≠ .waiting) :
    stillWaiting (before ++ (a, stage) :: after) =
      stillWaiting (before ++ (a, stage') :: after) := by
  rw [stillWaiting_append, stillWaiting_append, (stillWaiting_cons _ _).2 h,
    (stillWaiting_cons _ _).2 h']

/-- The calls of a run use templates as the kinds begin. -/
theorem exists_usedBy {as : List Artifact} {x : Ran Stages}
    (h : Steps output r ⟨waiting as, e, tree⟩ x) : ∃ us, UsedBy e tree r us x := by
  induction h with
  | refl =>
      refine ⟨[], .nil, ?_, by simp, fun k hk => ?_⟩
      · rw [stillWaiting_waiting]
        simp [waiting, Function.comp_def]
      · obtain ⟨a, -, rfl⟩ := List.mem_map.1 hk
        exact .inl rfl
  | tail hsteps hlast ih =>
      obtain ⟨us, huses, hkinds, hdrawn, hserved⟩ := ih
      have hgrown := grown_of_reachable hsteps
      cases hlast with
      | @mk before after b u v hcall =>
          have hmoved : ∀ stage stage' : Stage,
              (before ++ (b, stage) :: after).map Prod.fst =
                (before ++ (b, stage') :: after).map Prod.fst := fun _ _ => by simp
          rcases use_of_step hcall with ⟨hwaiting, outcome, hload, hfits⟩ |
            ⟨hbegun, hengine, hkept⟩
          · -- The kind begins: its use is one more.
            have hbegins : v.outcome ≠ .waiting := fun hv => by rwa [hv] at hfits
            set use : Use := ⟨b, r.language, u.tree, outcome⟩ with huse
            refine ⟨us ++ [use], huses.append (.single hload), ?_, ?_, ?_⟩
            · rw [List.map_append, ← hmoved u.outcome]
              refine (perm_stillWaiting_of_begun hbegins).symm.trans ?_
              rwa [hwaiting] at hkinds ⊢
            · intro w hw
              rcases List.mem_append.1 hw with hw | hw
              · exact hdrawn w hw
              · rw [List.mem_singleton.1 hw]
                exact ⟨rfl, hgrown⟩
            · refine served_of_moved hserved (List.subset_append_left ..)
                (.inr ⟨use, ?_, rfl, hfits⟩)
              exact List.mem_append_right _ (List.mem_singleton_self use)
          · -- A later call of the kind uses nothing more.
            obtain ⟨w, hw, hart, hfits⟩ := (hserved (b, u.outcome) (by simp)).resolve_left hbegun
            have hfits := hkept _ hfits
            have hbegins : v.outcome ≠ .waiting := fun hv => by rwa [hv] at hfits
            refine ⟨us, hengine ▸ huses, ?_, hdrawn,
              served_of_moved hserved (List.Subset.refl us) (.inr ⟨w, hw, hart, hfits⟩)⟩
            rwa [← hmoved u.outcome, ← stillWaiting_of_begun hbegun hbegins]

/-- What a request draws from templates as it is generated, whatever the order of the calls: one use
for each kind of file, with the tree as it was before or grown by files of the request. A kind whose
template could not be had has failed with that; any other has failed with its file, or has written
it as the template tells. -/
structure Drawn (tree : FileTree) (output : Path) (r : Request) (us : List Use)
    (ran : Ran Outcomes) : Prop where
  kinds : (us.map Use.artifact).Perm r.artifacts
  drawn : ∀ u ∈ us, u.language = r.language ∧ GrownByFiles r tree u.tree
  outcome : ∀ u ∈ us, ∃ outcome, (u.artifact, outcome) ∈ ran.outcome ∧
    match u.outcome, outcome with
    | .error failure, _ => outcome = .error failure
    | .ok _, .error failure => ∃ refusal, failure = .file refusal
    | .ok text, .ok p => p = output.join (u.artifact.path r) ∧
        ran.tree.content p = .ok (Text.utf8 (u.artifact.render r text).text)

/-- What a finished run has used. -/
theorem exists_drawn {ran : Ran Outcomes} (h : Ends e tree output r r.artifacts ran) :
    ∃ us, Uses e us ran.engine ∧ Drawn tree output r us ran := by
  obtain ⟨us, huses, hkinds, hdrawn, hserved⟩ := exists_usedBy h
  have hfst : (finished ran.outcome).map Prod.fst = r.artifacts := by
    rw [map_fst_of_steps h]
    simp [waiting, Function.comp_def]
  have hperm : (us.map Use.artifact).Perm r.artifacts := by
    rwa [hfst, stillWaiting_finished, List.append_nil] at hkinds
  refine ⟨us, huses, hperm, hdrawn, fun u hu => ?_⟩
  -- The kind of the use has an outcome, and no other use is of this kind.
  have hkind : u.artifact ∈ ran.outcome.map Prod.fst := by
    rw [h.map_fst]
    exact hperm.subset (List.mem_map_of_mem hu)
  obtain ⟨⟨b, outcome⟩, hmem, rfl : b = u.artifact⟩ := List.mem_map.1 hkind
  obtain ⟨w, hw, hart, hfits⟩ :=
    (hserved _ (mem_finished_iff.2 hmem)).resolve_left Stage.noConfusion
  have hnodup : (us.map Use.artifact).Nodup := hperm.nodup_iff.2 (nodup_artifacts r)
  obtain rfl : w = u := List.inj_on_of_nodup_map hnodup hw hu hart
  refine ⟨outcome, hmem, ?_⟩
  cases outcome with
  | error failure =>
      rcases hfits with hfailed | ⟨⟨text, hgot⟩, hrefused⟩
      · rw [hfailed]
      · rwa [hgot]
  | ok p =>
      obtain ⟨text, hgot⟩ : ∃ text, w.outcome = .ok text := hfits
      obtain ⟨hp, f, hrender, -, hcontent⟩ := content_of_ends h hmem
      have hlookup := lookup_of_mem_uses huses hw hgot
      rw [Use.pair, (hdrawn w hw).1] at hlookup
      have hf : f = w.artifact.render r text := by
        have := hrender tree
        rw [render_eq_map, load_of_lookup hlookup] at this
        exact (Except.ok.inj this).symm
      rw [hgot]
      exact ⟨hp, hf ▸ hcontent⟩

/-! ## Sessions -/

/-- What can be done with an engine, and what others can do in the meantime. -/
inductive Act where
  | load (a : Artifact) (l : Language)
  | missing (a : Artifact) (r : Request)
  | render (a : Artifact) (r : Request)
  | write (f : Artifact.Rendered) (output : Path)
  | generateOne (a : Artifact) (r : Request) (output : Path)
  | generate (r : Request) (output : Path)
  /-- Files are created, changed or deleted, anywhere and by anybody. -/
  | change

/-- What an act gives back. -/
inductive Reply where
  | template (outcome : Except Failure Text)
  | placeholders (outcome : Except Failure (List Placeholder))
  | file (outcome : Except Failure Artifact.Rendered)
  | path (outcome : Except Failure Path)
  | report (outcome : Except Failure Report)
  | nothing

/-- One act of a session, with the tree before and after it. -/
structure Turn where
  act : Act
  before : FileTree
  reply : Reply
  after : FileTree

/-- What an act does to an engine and a tree. Generating all files of a request may do its calls in
any order. -/
inductive Turn.Done : Engine → Turn → Engine → Prop
  | load {e : Engine} {tree : FileTree} {a : Artifact} {l : Language} :
      Done e ⟨.load a l, tree, .template (e.load tree a l).1, tree⟩ (e.load tree a l).2
  | missing {e : Engine} {tree : FileTree} {a : Artifact} {r : Request} :
      Done e ⟨.missing a r, tree, .placeholders
          ((e.load tree a r.language).1.map (Template.missing (a.values r))), tree⟩
        (e.load tree a r.language).2
  | render {e : Engine} {tree : FileTree} {a : Artifact} {r : Request} :
      Done e ⟨.render a r, tree, .file (e.render tree a r).1, tree⟩ (e.render tree a r).2
  | write {e : Engine} {tree : FileTree} {f : Artifact.Rendered} {output : Path} :
      Done e ⟨.write f output, tree, .path (Engine.write tree output f).1,
        (Engine.write tree output f).2⟩ e
  | generateOne {e : Engine} {tree : FileTree} {a : Artifact} {r : Request} {output : Path} :
      Done e ⟨.generateOne a r output, tree, .path (e.generateOne tree output r a).outcome,
        (e.generateOne tree output r a).tree⟩ (e.generateOne tree output r a).engine
  | generate {e : Engine} {tree : FileTree} {r : Request} {output : Path} {ran : Ran Outcomes}
      (h : Ends e tree output r r.artifacts ran) :
      Done e ⟨.generate r output, tree, .report (conclude ran).outcome, (conclude ran).tree⟩
        (conclude ran).engine
  | change {e : Engine} {tree tree' : FileTree} : Done e ⟨.change, tree, .nothing, tree'⟩ e

/-- Acts one after another, each where the one before has left the engine and the tree. -/
inductive Session : Engine → FileTree → List Turn → Engine → FileTree → Prop
  | nil {e : Engine} {tree : FileTree} : Session e tree [] e tree
  | cons {e e' e'' : Engine} {t : Turn} {ts : List Turn} {tree : FileTree} (h : t.Done e e')
      (rest : Session e' t.after ts e'' tree) : Session e t.before (t :: ts) e'' tree

/-- The uses of templates that a turn makes, and how its reply and the tree after it follow from
what they got. -/
inductive Turn.Draws : Turn → List Use → Prop
  | load {tree : FileTree} {a : Artifact} {l : Language} {got : Except Failure Text} :
      Draws ⟨.load a l, tree, .template got, tree⟩ [⟨a, l, tree, got⟩]
  | missing {tree : FileTree} {a : Artifact} {r : Request} {got : Except Failure Text} :
      Draws ⟨.missing a r, tree, .placeholders (got.map (Template.missing (a.values r))), tree⟩
        [⟨a, r.language, tree, got⟩]
  | render {tree : FileTree} {a : Artifact} {r : Request} {got : Except Failure Text} :
      Draws ⟨.render a r, tree, .file (got.map (a.render r)), tree⟩ [⟨a, r.language, tree, got⟩]
  | write {tree : FileTree} {f : Artifact.Rendered} {output : Path} :
      Draws ⟨.write f output, tree, .path (Engine.write tree output f).1,
        (Engine.write tree output f).2⟩ []
  | generateNone {tree : FileTree} {a : Artifact} {r : Request} {output : Path}
      {failure : Failure} :
      Draws ⟨.generateOne a r output, tree, .path (.error failure), tree⟩
        [⟨a, r.language, tree, .error failure⟩]
  | generateOne {tree : FileTree} {a : Artifact} {r : Request} {output : Path} {text : Text} :
      Draws ⟨.generateOne a r output, tree, .path (Engine.write tree output (a.render r text)).1,
        (Engine.write tree output (a.render r text)).2⟩ [⟨a, r.language, tree, .ok text⟩]
  | generate {tree : FileTree} {r : Request} {output : Path} {us : List Use} {ran : Ran Outcomes}
      (h : Drawn tree output r us ran) :
      Draws ⟨.generate r output, tree, .report (conclude ran).outcome, (conclude ran).tree⟩ us
  | change {tree tree' : FileTree} : Draws ⟨.change, tree, .nothing, tree'⟩ []

/-- **One turn** does nothing with templates beyond its uses. -/
theorem draws_of_done {t : Turn} (h : t.Done e e') : ∃ us, Uses e us e' ∧ t.Draws us := by
  cases h with
  | load => exact ⟨_, .single rfl, .load⟩
  | missing => exact ⟨_, .single rfl, .missing⟩
  | @render tree a r =>
      rw [render_eq_map]
      exact ⟨_, .single rfl, .render⟩
  | write => exact ⟨_, .nil, .write⟩
  | @generateOne tree a r output =>
      rcases hload : e.load tree a r.language with ⟨failure | text, e'⟩
      · have hone : e.generateOne tree output r a = ⟨.error failure, e', tree⟩ := by
          simp only [Engine.generateOne, render, hload]
        rw [hone]
        exact ⟨_, .single hload, .generateNone⟩
      · have hone : e.generateOne tree output r a =
            ⟨(Engine.write tree output (a.render r text)).1, e',
              (Engine.write tree output (a.render r text)).2⟩ := by
          simp only [Engine.generateOne, render, hload]
        rw [hone]
        exact ⟨_, .single hload, .generateOne⟩
  | generate hends =>
      obtain ⟨us, huses, hdrawn⟩ := exists_drawn hends
      rw [conclude_engine]
      exact ⟨us, huses, .generate hdrawn⟩
  | change => exact ⟨_, .nil, .change⟩

/-- The uses of a session are those of its turns, one turn after another. -/
theorem draws_of_session {ts : List Turn} (h : Session e tree ts e' tree') :
    ∃ uses, List.Forall₂ Turn.Draws ts uses ∧ Uses e uses.flatten e' := by
  induction h with
  | nil => exact ⟨[], .nil, .nil⟩
  | cons hdone _ ih =>
      obtain ⟨us, hus, hdraws⟩ := draws_of_done hdone
      obtain ⟨uses, hall, huses⟩ := ih
      exact ⟨us :: uses, .cons hdraws hall, hus.append huses⟩

theorem Session.split {past future : List Turn} (h : Session e tree (past ++ future) e'' tree') :
    ∃ e' between, Session e tree past e' between ∧ Session e' between future e'' tree' := by
  induction past generalizing e tree with
  | nil => exact ⟨e, tree, .nil, h⟩
  | cons t past ih =>
      cases h with
      | cons hdone hrest =>
          obtain ⟨e', between, hpast, hfuture⟩ := ih hrest
          exact ⟨e', between, .cons hdone hpast, hfuture⟩

/-- What is remembered stays remembered over a session. -/
theorem lookup_of_session {ts : List Turn} {k : Artifact × Language} {text : Text}
    (h : Session e tree ts e' tree') (hlookup : e.loaded.lookup k = some text) :
    e'.loaded.lookup k = some text := by
  obtain ⟨uses, -, huses⟩ := draws_of_session h
  rw [lookup_of_uses huses, hlookup, Option.some_or]

/-- A turn that rendered a file has left its template remembered. -/
theorem remembers_of_rendered {t : Turn} {f : Artifact.Rendered} (h : t.Done e e')
    (ht : t.act = .render a r) (hreply : t.reply = .file (.ok f)) : Remembers e' r a f := by
  cases h with
  | @render tree b r' =>
      obtain ⟨rfl, rfl⟩ := Act.render.inj ht
      rcases hrender : e.render tree b r' with ⟨outcome, e'⟩
      obtain rfl : outcome = .ok f := by simpa [hrender] using hreply
      obtain ⟨template, hload, hf⟩ := render_eq_ok hrender
      exact ⟨template, (load_eq_ok hload).1, hf⟩
  | _ => cases ht

/-- A turn renders the file whose template is remembered. -/
theorem reply_of_remembers {t : Turn} {f : Artifact.Rendered} (h : t.Done e e')
    (ht : t.act = .render a r) (hf : Remembers e r a f) : t.reply = .file (.ok f) := by
  obtain ⟨template, hlookup, rfl⟩ := hf
  cases h with
  | @render tree b r' =>
      obtain ⟨rfl, rfl⟩ := Act.render.inj ht
      simp only [render_eq_map, load_of_lookup hlookup]
      rfl
  | _ => cases ht

/-- A file that was rendered once is rendered again, whatever has become of the templates. -/
theorem rendered_again {past between future : List Turn} {t t' : Turn} {f : Artifact.Rendered}
    (h : Session e tree (past ++ t :: between ++ t' :: future) e'' tree')
    (ht : t.act = .render a r) (ht' : t'.act = .render a r) (hreply : t.reply = .file (.ok f)) :
    t'.reply = .file (.ok f) := by
  obtain ⟨_, _, hbefore, hafter⟩ := h.split
  obtain ⟨_, _, -, hmiddle⟩ := hbefore.split
  cases hmiddle with
  | cons hdone hbetween =>
      obtain ⟨template, hlookup, hf⟩ := remembers_of_rendered hdone ht hreply
      cases hafter with
      | cons hdone' _ =>
          exact reply_of_remembers hdone' ht' ⟨template, lookup_of_session hbetween hlookup, hf⟩

/-- **The template that is loaded first stays**, over every session with an engine that has loaded
nothing yet. Its turns use templates as `Turn.Draws` says, and of all these uses the first of a pair
that succeeds decides what the later ones get (`FirstLoad`), so that a file once rendered is
rendered again from an equal request. A load that fails leaves the engine as it is; the next one
reads the source again, and has the text as soon as there is a file of valid UTF-8. Pairs do not
disturb each other: their templates are different files, and loading one changes nothing for
another. -/
theorem first_load_stays {source : TemplateSource} {ts : List Turn}
    (h : Session ⟨source, []⟩ tree ts e tree') :
    (∃ uses, List.Forall₂ Turn.Draws ts uses ∧ FirstLoad source uses.flatten ∧
      ∀ k, e.loaded.lookup k = firstLoaded k uses.flatten) ∧
    (∀ past t between t' future a r f, ts = past ++ t :: between ++ t' :: future →
      t.act = .render a r → t'.act = .render a r → t.reply = .file (.ok f) →
      t'.reply = .file (.ok f)) ∧
    (∀ later a l failure, (e.load later a l).1 = .error failure → (e.load later a l).2 = e) ∧
    (∀ path, source = .directory path → ∀ later a l content text,
      later.entry? (path.join ⟨.here, [TemplateSource.fileName a l]⟩) = some (.file content) →
      Text.ofUtf8 content = .ok text →
      (e.load later a l).1 = .ok ((e.loaded.lookup (a, l)).getD text.unifyLineEnds)) ∧
    ∀ later later' a l b l', (a, l) ≠ (b, l') →
      TemplateSource.fileName a l ≠ TemplateSource.fileName b l' ∧
      ((e.load later a l).2.load later' b l').1 = (e.load later' b l').1 := by
  obtain ⟨uses, hdraws, huses⟩ := draws_of_session h
  have hlookup : ∀ k, e.loaded.lookup k = firstLoaded k uses.flatten := fun k => by
    rw [lookup_of_uses huses, List.lookup_nil, Option.none_or]
  refine ⟨⟨uses, hdraws, firstLoad_of_uses huses, hlookup⟩, ?_, ?_, ?_, ?_⟩
  · rintro past t between t' future a r f rfl ht ht' hreply
    exact rendered_again h ht ht' hreply
  · intro later a l failure hfailed
    exact load_eq_error (Prod.ext hfailed rfl)
  · rintro path rfl later a l content text hfile htext
    rw [load_outcome, huses.source_eq, read_of_file hfile htext]
    cases e.loaded.lookup (a, l) <;> rfl
  · intro later later' a l b l' hne
    refine ⟨fun hname => hne ?_, load_after_load hne later'⟩
    obtain ⟨rfl, rfl⟩ := TemplateSource.eq_of_fileName_eq hname
    rfl

/-- A template that is changed between two renderings of the same request. -/
theorem first_load_stays_over_change :
    let holding (text : String) : FileTree :=
      ⟨[(["t".text], .directory),
        (["t".text, "model.js".text], .file (Text.utf8 text.text))], []⟩
    let r : Request := { model := "Post".text }
    let f := Artifact.model.render r "first".text
    ∃ e reply, Session ⟨.directory (.ofText "t".text), []⟩ (holding "first")
        [⟨.render .model r, holding "first", .file (.ok f), holding "first"⟩,
          ⟨.change, holding "first", .nothing, holding "second"⟩,
          ⟨.render .model r, holding "second", reply, holding "second"⟩] e (holding "second") ∧
      reply = .file (.ok f) := by
  intro holding r f
  let e : Engine := ⟨.directory (.ofText "t".text), []⟩
  have hfirst : (e.render (holding "first") .model r).1 = .ok f := by decide
  have hrendered : Turn.Done e
      ⟨.render .model r, holding "first", .file (.ok f), holding "first"⟩
      (e.render (holding "first") .model r).2 := hfirst ▸ .render
  have hchanged : ∀ e', Turn.Done e' ⟨.change, holding "first", .nothing, holding "second"⟩ e' :=
    fun _ => .change
  have hagain : ∀ e', Turn.Done e' ⟨.render .model r, holding "second",
      .file (e'.render (holding "second") .model r).1, holding "second"⟩
      (e'.render (holding "second") .model r).2 := fun _ => .render
  have hsession := Session.cons hrendered (.cons (hchanged _) (.cons (hagain _) .nil))
  exact ⟨_, _, hsession, (first_load_stays hsession).2.1 [] _ [_] _ [] .model r f rfl rfl rfl rfl⟩

end Engine

end Scaffold
