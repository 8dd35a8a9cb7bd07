import FieldTemplates.Proofs.Document.Tokens
import FieldTemplates.Proofs.Snippet.Rekeyed
import FieldTemplates.Proofs.Text.Trim

namespace FieldTemplates

-- Everything but the keys of the fields and layouts.
def Group.unkeyedBelow (g : Group) : Group := { g with fields := Field.unkeyedAll g.fields }

namespace Document

open Snippet (RenderError Setting Style renderLevel)
open Text (ended)

structure Page where
  title : String
  body : List (List Char)

def Page.rows (p : Page) (key : String) : List (List Char) := bannerRow p.title key :: p.body

-- The rows of pages, each under a banner with its key.
def pageRows (pages : List Page) (keys : List String) : List (List Char) :=
  (List.zipWith Page.rows pages keys).flatten

theorem pageRows_cons (p : Page) (pages : List Page) (key : String) (keys : List String) :
    pageRows (p :: pages) (key :: keys) = bannerRow p.title key :: (p.body ++ pageRows pages keys) :=
  rfl

theorem pageRows_append {pages more : List Page} {keys others : List String}
    (h : pages.length = keys.length) :
    pageRows (pages ++ more) (keys ++ others) = pageRows pages keys ++ pageRows more others := by
  rw [pageRows, List.zipWith_append h, List.flatten_append, pageRows, pageRows]

theorem groupBlock_eq_ended (title key : String) (body : List Char) :
    groupBlock title key body = ended (Page.rows ⟨title, Text.lines body⟩ key) := by
  rw [groupBlock_eq, Page.rows, Text.ended_cons, Text.ended_lines]
  simp only [List.append_assoc, List.cons_append, List.nil_append]

section

variable (s : Setting)

def pageOf (g : Group) : Except RenderError Page :=
  (renderLevel s g.key 0 "" g.fields).text.map fun body => ⟨g.title, Text.lines body⟩

theorem pageOf_unkeyedBelow (g : Group) : pageOf s g.unkeyedBelow = pageOf s g :=
  congrArg (Except.map fun body => (⟨g.title, Text.lines body⟩ : Page))
    (Snippet.renderLevel_unkeyed s g.key g.key 0 "" g.fields)

theorem title_of_pageOf {g : Group} {p : Page} (h : pageOf s g = .ok p) : p.title = g.title := by
  simp only [pageOf] at h
  cases hlevel : (renderLevel s g.key 0 "" g.fields).text with
  | error e =>
      rw [hlevel] at h
      cases h
  | ok body =>
      rw [hlevel] at h
      cases h
      rfl

def pagesOf (gs : List Group) : Except RenderError (List Page) := gs.mapM (pageOf s)

theorem pagesOf_cons (g : Group) (gs : List Group) :
    pagesOf s (g :: gs) = (do
      let p ← pageOf s g
      let ps ← pagesOf s gs
      .ok (p :: ps)) := List.mapM_cons

theorem pagesOf_unkeyedBelow (gs : List Group) :
    pagesOf s (gs.map Group.unkeyedBelow) = pagesOf s gs := by
  have hpage : pageOf s ∘ Group.unkeyedBelow = pageOf s := funext (pageOf_unkeyedBelow s)
  rw [pagesOf, List.mapM_map, hpage, pagesOf]

theorem titles_of_pagesOf {gs : List Group} {pages : List Page} (h : pagesOf s gs = .ok pages) :
    pages.map Page.title = gs.map Group.title := by
  induction gs generalizing pages with
  | nil =>
      cases h
      rfl
  | cons g gs ih =>
      rw [pagesOf_cons] at h
      cases hpage : pageOf s g with
      | error e =>
          rw [hpage] at h
          cases h
      | ok p =>
          cases hrest : pagesOf s gs with
          | error e =>
              rw [hpage, hrest] at h
              cases h
          | ok ps =>
              rw [hpage, hrest] at h
              cases h
              rw [List.map_cons, List.map_cons, ih hrest, title_of_pageOf s hpage]

end

-- The keys that groups are given when they are prepared one after another.
def givenKeys (source : Key.Source) (a : Key.Allocator) (gs : List Group) : List String :=
  (prepareAll source a gs).result.map Group.key

theorem givenKeys_cons (source : Key.Source) (a : Key.Allocator) (g : Group) (gs : List Group) :
    givenKeys source a (g :: gs) = (prepare source a g).key ::
      givenKeys source (prepare source a g).allocator gs := rfl

theorem length_givenKeys (source : Key.Source) (a : Key.Allocator) (gs : List Group) :
    (givenKeys source a gs).length = gs.length := by
  have hlength := congrArg List.length (prepareAll_unkeyed source a gs)
  rw [List.length_map, List.length_map] at hlength
  rw [givenKeys, List.length_map, hlength]

-- How a run goes on that adds pages under keys: it ends over a page that has no text, or all are
-- written.
def Adds (pages : Except RenderError (List Page)) (keys : List String) (run : Run)
    (r : Run × Option RunError) : Prop :=
  match pages with
  | .error e => r.2 = some (.render e)
  | .ok pages => r.2 = none ∧ r.1.code = run.code ++ ended (pageRows pages keys)

section

variable (setup : Setup) (style : Style)

theorem addGroup_page (run : Run) (g : Group) :
    Adds ((pageOf ⟨setup.catalog, style⟩ g).map ([·])) [(prepare setup.source run.allocator g).key] run
      (addGroup setup style run g) := by
  let p := prepare setup.source run.allocator g
  have hlevel : (renderLevel ⟨setup.catalog, style⟩ p.key 0 "" p.fields).text =
      (renderLevel ⟨setup.catalog, style⟩ g.key 0 "" g.fields).text :=
    Snippet.renderLevel_of_unkeyed _ ((Key.assign_unkeyed setup.source).2.1 g.fields _) _ _ _ _
  simp only [addGroup, pageOf]
  rw [hlevel]
  cases (renderLevel ⟨setup.catalog, style⟩ g.key 0 "" g.fields).text with
  | error e => rfl
  | ok body =>
      have hblock : groupBlock g.title p.key body =
          ended (pageRows [⟨g.title, Text.lines body⟩] [p.key]) := by
        rw [groupBlock_eq_ended]
        exact congrArg ended (List.append_nil _).symm
      exact ⟨rfl, congrArg (run.code ++ ·) hblock⟩

theorem steps_pages (run : Run) (keys : List String) :
    Adds (pagesOf ⟨setup.catalog, style⟩ (resolved setup.library keys))
      (givenKeys setup.source run.allocator (resolved setup.library keys)) run
      (steps setup style run (keys.map .key)) := by
  refine steps_induction (motive := fun gs run r => Adds (pagesOf ⟨setup.catalog, style⟩ gs)
    (givenKeys setup.source run.allocator gs) run r) ?done ?unknown ?ended ?added keys run
  case done =>
    intro run
    exact ⟨rfl, (List.append_nil _).symm⟩
  case unknown =>
    intro gs key run r ih
    exact ih
  case ended =>
    intro g gs run next e _ hadd
    have hpage := addGroup_page setup style run.asked g
    rw [hadd] at hpage
    rw [pagesOf_cons]
    cases hg : pageOf ⟨setup.catalog, style⟩ g with
    | error e' =>
        rw [hg] at hpage
        exact hpage
    | ok p =>
        rw [hg] at hpage
        cases hpage.1
  case added =>
    intro g gs run next r _ hadd ih
    have hpage := addGroup_page setup style run.asked g
    have halloc := (addGroup_allocator setup style run.asked g).1
    rw [hadd] at hpage halloc
    rw [pagesOf_cons, givenKeys_cons]
    rw [halloc] at ih
    cases hg : pageOf ⟨setup.catalog, style⟩ g with
    | error e =>
        rw [hg] at hpage
        cases hpage
    | ok p =>
        rw [hg] at hpage
        cases hgs : pagesOf ⟨setup.catalog, style⟩ gs with
        | error e =>
            rw [hgs] at ih
            exact ih
        | ok ps =>
            rw [hgs] at ih
            obtain ⟨hnone, hcode⟩ := ih
            refine ⟨hnone, ?_⟩
            rw [hcode, hpage.2, List.append_assoc, ← Text.ended_append, ← pageRows_append rfl]
            rfl

variable {setup style}

-- The document of a run over keys is its header, and a page for each group that answers a key, tidied.
theorem generate_code (h : Style.ofOptions setup.options = .ok style) (a : Key.Allocator)
    (keys : List String) :
    (generate setup a (keys.map .key)).code =
      ((pagesOf ⟨setup.catalog, style⟩ (resolved setup.library keys)).mapError .render).map fun pages =>
        tidy (header setup.options.headerTitle.display setup.time ++
          ended (pageRows pages (givenKeys setup.source a (resolved setup.library keys)))) := by
  have hsteps := steps_pages setup style (Run.start setup a) keys
  rw [generate_of_style h]
  cases hpages : pagesOf ⟨setup.catalog, style⟩ (resolved setup.library keys) with
  | error e =>
      rw [hpages] at hsteps
      simp only [show (steps setup style (Run.start setup a) (keys.map .key)).2 = _ from hsteps]
      rfl
  | ok pages =>
      rw [hpages] at hsteps
      simp only [hsteps.1, hsteps.2]
      rfl

end

theorem bannerRow_concat (title key : String) : ∃ cs, bannerRow title key = cs ++ [')'] ∧ '\n' ∉ cs := by
  unfold bannerRow
  have hfixed : '\n' ∉ "// Template for Field Group: ".toList ∧ '\n' ∉ " (".toList := by decide
  refine ⟨"// Template for Field Group: ".toList ++ (Php.comment title.toList ++ (" (".toList ++
    Php.comment key.toList)), by simp only [List.append_assoc], ?_⟩
  simp only [List.mem_append, not_or]
  exact ⟨hfixed.1, Php.newline_notMem_comment _, hfixed.2, Php.newline_notMem_comment _⟩

-- Banners stand on one line each and stay what they are.
theorem squeeze_bannerRow (blanks : Nat) (rows : List (List Char)) (title key : String)
    (more : List (List Char)) : squeeze blanks (rows ++ bannerRow title key :: more) =
      squeeze blanks rows ++ bannerRow title key :: squeeze 0 more := by
  obtain ⟨cs, hrow, -⟩ := bannerRow_concat title key
  have htrim : Text.trimRight (bannerRow title key) = bannerRow title key := by
    rw [hrow]
    exact Text.trimRight_concat (by decide) cs
  obtain ⟨after, hafter⟩ := squeeze_append blanks rows
  rw [hafter, squeeze_cons after htrim (by rw [hrow]; simp)]

-- Rows squeezed by themselves with an empty row behind them, which need not be among what is kept.
def SqueezesTo (rows kept : List (List Char)) : Prop :=
  kept ++ [[]] = squeeze 0 (rows ++ [[]]) ∨ kept = squeeze 0 (rows ++ [[]])

theorem tells_of_squeezesTo {rows kept : List (List Char)} (h : SqueezesTo rows kept)
    {ts : List Php.Token} (hrows : Php.Tells .code (ended rows) ts .code) :
    Php.Tells .code (ended kept) ts .code := by
  have hsqueezed := tells_squeeze_snoc hrows
  rcases h with hkept | hkept
  · rw [← hkept] at hsqueezed
    exact tells_ended_snoc hsqueezed
  · rwa [← hkept] at hsqueezed

def Page.Tidied (p p' : Page) : Prop := p'.title = p.title ∧ SqueezesTo p.body p'.body

-- What is tidied are the bodies of the pages, each by itself, with the empty row behind the last one.
-- The rows in front keep what they are tidied to alone, but for that row.
theorem squeeze_pageRows (pages : List Page) (front : List (List Char)) :
    ∃ kept pages', SqueezesTo front kept ∧ List.Forall₂ Page.Tidied pages pages' ∧
      ∀ keys, keys.length = pages.length →
        squeeze 0 (front ++ pageRows pages keys ++ [[]]) = kept ++ pageRows pages' keys ++ [[]] := by
  induction pages generalizing front with
  | nil =>
      rcases squeeze_snoc 0 front with ⟨hle, -⟩ | ⟨kept, hkept⟩
      · omega
      · refine ⟨kept, [], .inl hkept.symm, .nil, fun keys _ => ?_⟩
        simpa [pageRows] using hkept
  | cons p pages ih =>
      obtain ⟨body, pages', hbody, htidied, hrest⟩ := ih p.body
      refine ⟨squeeze 0 front, ⟨p.title, body⟩ :: pages', ?_, .cons ⟨rfl, hbody⟩ htidied,
        fun keys hlength => ?_⟩
      · obtain ⟨after, hafter⟩ := squeeze_append 0 front
        rw [SqueezesTo, hafter, squeeze]
        by_cases hlt : after < 2
        · exact .inl (by simp [hlt, show Text.trimRight [] = [] from rfl, squeeze])
        · exact .inr (by simp [hlt, show Text.trimRight [] = [] from rfl, squeeze])
      · cases keys with
        | nil => cases hlength
        | cons key keys =>
            have hkeys : keys.length = pages.length := Nat.succ.inj hlength
            rw [pageRows_cons, pageRows_cons, List.append_assoc, List.cons_append, squeeze_bannerRow,
              hrest keys hkeys]
            simp only [List.append_assoc, List.cons_append]

-- A page with its body as the lines of the body's text.
def Page.split (p : Page) : Page := ⟨p.title, p.body.flatMap Text.lines⟩

theorem titles_of_tidied {pages pages' : List Page}
    (h : List.Forall₂ (fun p p' => p.split.Tidied p') pages pages') :
    pages'.map Page.title = pages.map Page.title := by
  induction h with
  | nil => rfl
  | cons hpage _ ih => exact congrArg₂ List.cons hpage.1 ih

theorem flatMap_lines_pageRows (pages : List Page) (keys : List String) :
    (pageRows pages keys).flatMap Text.lines = pageRows (pages.map Page.split) keys := by
  induction pages generalizing keys with
  | nil => rfl
  | cons p pages ih =>
      cases keys with
      | nil => rfl
      | cons key keys =>
          obtain ⟨cs, hrow, hcs⟩ := bannerRow_concat p.title key
          have hbanner : Text.lines (bannerRow p.title key) = [bannerRow p.title key] := by
            refine Text.lines_of_no_newline ?_
            rw [hrow, List.mem_append, not_or]
            exact ⟨hcs, by decide⟩
          rw [pageRows_cons, List.flatMap_cons, hbanner, List.flatMap_append, ih]
          rfl

-- Tidying keeps the header apart from the pages, and the banners of the pages as they are. Where the
-- header alone would lose a line end that is one too many at its end, a page behind it keeps it.
theorem tidy_pageRows (cs : List Char) (pages : List Page) :
    ∃ gap pages', (gap = [] ∨ gap = ['\n']) ∧
      List.Forall₂ (fun p p' => p.split.Tidied p') pages pages' ∧
      ∀ keys, keys.length = pages.length →
        tidy (cs ++ ['\n'] ++ ended (pageRows pages keys)) =
          tidy (cs ++ ['\n']) ++ gap ++ ended (pageRows pages' keys) := by
  obtain ⟨kept, pages', hkept, htidied, hrows⟩ :=
    squeeze_pageRows (pages.map Page.split) (Text.lines cs)
  rw [List.forall₂_map_left_iff] at htidied
  obtain ⟨alone, htidy, halone⟩ := tidy_newline cs
  have hpages : ∀ keys : List String, keys.length = pages.length →
      tidy (cs ++ ['\n'] ++ ended (pageRows pages keys)) = ended kept ++ ended (pageRows pages' keys) := by
    intro keys hlength
    rw [tidy, List.append_assoc, List.singleton_append, Text.lines_append, Text.lines_ended,
      flatMap_lines_pageRows, ← List.append_assoc, hrows keys (by rw [hlength, List.length_map]),
      Text.unlines_ended, Text.ended_append]
  rw [SqueezesTo, halone] at hkept
  rcases hkept with hsame | hmore
  · obtain rfl := List.append_cancel_right hsame
    refine ⟨[], pages', .inl rfl, htidied, fun keys hlength => ?_⟩
    rw [hpages keys hlength, htidy, List.append_nil]
  · refine ⟨['\n'], pages', .inr rfl, htidied, fun keys hlength => ?_⟩
    rw [hpages keys hlength, htidy, hmore, Text.ended_append]
    rfl

theorem tidy_document (title time : String) (pages : List Page) :
    ∃ gap pages', (gap = [] ∨ gap = ['\n']) ∧ pages'.map Page.title = pages.map Page.title ∧
      ∀ keys, keys.length = pages.length → tidy (header title time ++ ended (pageRows pages keys)) =
        tidy (header title time) ++ gap ++ ended (pageRows pages' keys) := by
  rw [header_eq, ← List.append_assoc]
  obtain ⟨gap, pages', hgap, htidied, hdocument⟩ :=
    tidy_pageRows (Php.opening ++ headerLines title time) pages
  exact ⟨gap, pages', hgap, titles_of_tidied htidied, hdocument⟩

end Document

end FieldTemplates
