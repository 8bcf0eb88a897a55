import LazyProxy.Proofs.Target.Marker

/-!
This module contains that a banner is only a comment: without comments and blank lines, files with
different banners are the same. In PHP this asks that no banner closes the comment that it stands in.
-/

namespace LazyProxy

open Text

/-- The lines of a text that are not blank. -/
def inkedLines (cs : List Char) : List String :=
  (cutLines (String.ofList cs)).filter fun l => !l.toList.all isBlank

theorem inkedLines_append_newline (xs ys : List Char)
    : inkedLines (xs ++ '\n' :: ys) = inkedLines xs ++ inkedLines ys := by
  simp only [inkedLines, cutLines, String.toList_ofList]
  rw [splitWhen_append_cons (by rfl), List.map_append, List.filter_append]

theorem inkedLines_newline (ys : List Char) : inkedLines ('\n' :: ys) = inkedLines ys :=
  inkedLines_append_newline [] ys

namespace Php

/-- What a character of a file belongs to. Heredocs, of which no file has any, are not told from code. -/
inductive Region where
  | page
  | code
  | quoted (mark : Char)
  | escaped (mark : Char)
  | lineComment
  | blockOpening
  | block
  | blockClosing

/-- The marks that quotes start and end with. -/
def quoteMarks : List Char :=
  ['"', '\'', '\x60']

/-- Whether a character stands outside of comments, and what the next one belongs to. -/
def Region.step : Region → (c : Char) → (next : Option Char) → Bool × Region
  | page, c, next => (true, if c = '<' ∧ next = some '?' then code else page)
  | code, c, next =>
    if c = '?' ∧ next = some '>' then (true, page)
    else if c = '/' ∧ next = some '*' then (false, blockOpening)
    else if c = '/' ∧ next = some '/' then (false, lineComment)
    else if c = '#' ∧ next ≠ some '[' then (false, lineComment)
    else if c ∈ quoteMarks then (true, quoted c)
    else (true, code)
  | quoted mark, c, _ =>
    (true, if c = '\\' then escaped mark else if c = mark then code else quoted mark)
  | escaped mark, _, _ => (true, quoted mark)
  | lineComment, c, next =>
    if c = '\n' ∨ c = '\r' then (true, code)
    else if c = '?' ∧ next = some '>' then (true, page)
    else (false, lineComment)
  | blockOpening, _, _ => (false, block)
  | block, c, next => (false, if c = '*' ∧ next = some '/' then blockClosing else block)
  | blockClosing, _, _ => (false, code)

/-- Text without its comments, from inside a region on. -/
def bareText : Region → List Char → List Char
  | _, [] => []
  | r, c :: cs =>
    match r.step c cs.head? with
    | (true, next) => c :: bareText next cs
    | (false, next) => bareText next cs

theorem bareText_cons_kept {r next : Region} {c : Char} {cs : List Char}
    (h : r.step c cs.head? = (true, next))
    : bareText r (c :: cs) = c :: bareText next cs := by
  rw [bareText, h]

theorem bareText_cons_dropped {r next : Region} {c : Char} {cs : List Char}
    (h : r.step c cs.head? = (false, next))
    : bareText r (c :: cs) = bareText next cs := by
  rw [bareText, h]

/-- Whether a character of code starts neither a comment nor quotes, and does not end the code. -/
def isPlain (c : Char) : Bool :=
  !('?' :: '/' :: '#' :: quoteMarks).contains c

theorem step_code {c : Char} (h : isPlain c) (next : Option Char)
    : Region.code.step c next = (true, .code) := by
  have h : c ≠ '?' ∧ c ≠ '/' ∧ c ≠ '#' ∧ c ∉ quoteMarks := by
    simpa [isPlain, quoteMarks] using h
  rcases h with ⟨hquestion, hslash, hhash, hquote⟩
  simp [Region.step, hquestion, hslash, hhash, hquote]

theorem bareText_append {xs : List Char} (h : xs.all isPlain) (ys : List Char)
    : bareText .code (xs ++ ys) = xs ++ bareText .code ys := by
  induction xs with
  | nil => rfl
  | cons x xs ih =>
    rw [List.all_cons, Bool.and_eq_true] at h
    rw [List.cons_append, bareText_cons_kept (step_code h.left _), ih h.right, List.cons_append]

theorem bareText_blockOpening (cs : List Char)
    : bareText .code ('/' :: '*' :: cs) = bareText .block cs :=
  rfl

theorem bareText_block {xs : List Char} (h : endsComment xs = false) (ys : List Char)
    : bareText .block (xs ++ '*' :: '/' :: ys) = bareText .code ys := by
  induction xs with
  | nil => rfl
  | cons x xs ih =>
    rw [endsComment, Bool.or_eq_false_iff] at h
    -- The character starts no end of the comment, also if the end follows.
    have hstep : Region.block.step x (xs ++ '*' :: '/' :: ys).head? = (false, .block) := by
      have hend : ¬(x = '*' ∧ (xs ++ '*' :: '/' :: ys).head? = some '/') := by
        cases xs with
        | nil => simp
        | cons y xs => simpa using h.left
      rw [Region.step, if_neg hend]
    rw [List.cons_append, bareText_cons_dropped hstep, ih h.right]

/-- Without its comment a banner leaves the end of a line or nothing. -/
theorem inkedLines_commentLines {banner : String} (h : endsComment banner.toList = false)
    (rest : List Char)
    : inkedLines (bareText .code ((linesText (commentLines banner)).toList ++ rest))
        =
      inkedLines (bareText .code rest) := by
  by_cases hempty : banner = ""
  . rw [hempty]
    rfl
  . have hclose := bareText_block (endsComment_commentBody h) ('\n' :: rest)
    have hbreak : bareText .code ('\n' :: rest) = '\n' :: bareText .code rest :=
      bareText_cons_kept (step_code (by decide) _)
    rw [linesText, toList_join_commentLines hempty]
    simp only [List.cons_append, List.append_assoc, List.nil_append]
    rw [bareText_blockOpening, hclose, hbreak, inkedLines_newline]

theorem isPlain_of_isIdentifierPart {c : Char} (h : isIdentifierPart c) : isPlain c := by
  rw [isPlain, Bool.not_eq_true', List.contains_eq_mem, decide_eq_false_iff_not]
  intro hmem
  simp only [quoteMarks, List.mem_cons, List.not_mem_nil, or_false] at hmem
  rcases hmem with rfl | rfl | rfl | rfl | rfl | rfl
  all_goals contradiction

theorem all_isPlain_namespace {segments : List String} (h : ∀ s ∈ segments, IsWord s)
    : ("namespace " ++ Text.join "\\" segments ++ ";").toList.all isPlain := by
  have hjoin : (Text.join "\\" segments).toList.all isPlain := by
    rw [List.all_eq_true]
    intro c hc
    rcases mem_of_mem_join hc with hc | ⟨s, hs, hc⟩
    . rw [List.mem_singleton.mp hc]
      decide
    . exact isPlain_of_isIdentifierPart ((h s hs).isIdentifierPart c hc)
  rw [String.toList_append, String.toList_append, List.all_append, List.all_append, hjoin]
  rfl

theorem toList_linesText_cons (l : String) (ls : List String)
    : (linesText (l :: ls)).toList = l.toList ++ '\n' :: (linesText ls).toList := by
  simp [linesText]

theorem all_isPlain_linesText {ls : List String} (h : ∀ l ∈ ls, l.toList.all isPlain)
    : (linesText ls).toList.all isPlain := by
  induction ls with
  | nil => rfl
  | cons l ls ih =>
    rw [List.forall_mem_cons] at h
    rw [toList_linesText_cons, List.all_append, h.left, List.all_cons, ih h.right]
    rfl

/-- What stands in front of the comment is the opening tag and code without comments. -/
theorem bareText_openingLines {segments : List String} (h : ∀ s ∈ segments, IsWord s)
    (rest : List Char)
    : bareText .page ((linesText (openingLines segments)).toList ++ rest)
        =
      (linesText (openingLines segments)).toList ++ bareText .code rest := by
  have hlines : ∃ ls, openingLines segments = "<?php" :: ls ∧ ∀ l ∈ ls, l.toList.all isPlain := by
    unfold openingLines
    split
    . exact ⟨[""], rfl, by simp⟩
    . refine ⟨["", "namespace " ++ Text.join "\\" segments ++ ";", ""], rfl, ?_⟩
      simp only [List.forall_mem_cons]
      exact ⟨rfl, all_isPlain_namespace h, rfl, List.forall_mem_nil _⟩
  rcases hlines with ⟨ls, hls, hplain⟩
  have htext : (linesText (openingLines segments)).toList
      = '<' :: '?' :: 'p' :: ("hp\n".toList ++ (linesText ls).toList) := by
    rw [hls, toList_linesText_cons]
    rfl
  have hcode : ('p' :: ("hp\n".toList ++ (linesText ls).toList)).all isPlain := by
    rw [List.all_cons, List.all_append, all_isPlain_linesText hplain]
    decide
  rw [htext, List.cons_append, List.cons_append, bareText_cons_kept rfl, bareText_cons_kept rfl,
    bareText_append hcode]
  rfl

theorem inkedLines_linesText_append (ls : List String) (rest : List Char)
    : inkedLines ((linesText ls).toList ++ rest)
        =
      ls.flatMap (fun l => inkedLines l.toList) ++ inkedLines rest := by
  induction ls with
  | nil => rfl
  | cons l ls ih =>
    rw [toList_linesText_cons, List.append_assoc, List.cons_append, inkedLines_append_newline, ih,
      List.flatMap_cons, List.append_assoc]

/-- Without comments a file with a banner is the one without it. -/
theorem inkedLines_file {segments : List String} (h : ∀ s ∈ segments, IsWord s) {banner : String}
    (hbanner : endsComment banner.toList = false) (body : List String)
    : inkedLines (bareText .page
          (linesText (openingLines segments ++ commentLines banner ++ body)).toList)
        =
      inkedLines (bareText .page (linesText (openingLines segments ++ body)).toList) := by
  simp only [linesText_append, String.toList_append, List.append_assoc]
  rw [bareText_openingLines h, bareText_openingLines h, inkedLines_linesText_append,
    inkedLines_linesText_append, inkedLines_commentLines hbanner]

/-- What follows the end of a comment in a banner is code, and so is the end that was meant. -/
theorem inkedLines_endedComment {segments : List String} (h : ∀ s ∈ segments, IsWord s)
    (body : List String)
    : inkedLines (bareText .page
          (linesText (openingLines segments ++ commentLines "a */ b" ++ body)).toList)
        =
      (openingLines segments).flatMap (fun l => inkedLines l.toList) ++
        " b" :: " */" :: inkedLines (bareText .code (linesText body).toList) := by
  have hcomment : (linesText (commentLines "a */ b")).toList = "/**\n * a */ b\n */\n".toList := by
    decide
  have hbare : bareText .code ("/**\n * a */ b\n */\n".toList ++ (linesText body).toList)
      = " b".toList ++ '\n' :: (" */".toList ++ '\n' :: bareText .code (linesText body).toList) := rfl
  have hlines : inkedLines " b".toList = [" b"] ∧ inkedLines " */".toList = [" */"] := by decide
  simp only [linesText_append, String.toList_append, List.append_assoc, hcomment]
  rw [bareText_openingLines h, inkedLines_linesText_append, hbare, inkedLines_append_newline,
    inkedLines_append_newline, hlines.left, hlines.right, List.singleton_append,
    List.singleton_append]

open OutlineStep (linesOf linesOf_append) in
theorem outlineText_classSteps {c : ProxyClass} (h : Readable c) (width : Nat)
    : ∃ body, ∀ banner, outlineText width (classSteps c banner)
        = linesText (openingLines c.namespaceSegments ++ commentLines banner ++ body) := by
  let steps := [.line ("class " ++ c.name ++ " extends \\" ++ c.base.join "\\" ++
    " implements \\" ++ c.marker.join "\\"), block (memberBlock c.members)]
  refine ⟨(linesOf 0 steps).map (·.indented width), ?_⟩
  intro banner
  rw [outlineText_eq (areWhole_classSteps h banner), classSteps, linesOf_append, List.map_append,
    linesOf_header]
  rfl

theorem render_banner {proxy : ProxyClass} {c : Config} {code : String}
    (h : render proxy c = .ok code) (banner : String)
    : render proxy { c with banner } = .ok (outlineText c.indent (classSteps proxy banner)) := by
  unfold render at h ⊢
  split at h
  . contradiction
  . next hthis => rw [if_neg hthis]

end Php

namespace Rust

open Code

/-- Text without its comments. What documents an item, and so is an attribute of it, stays, and so
does what cannot be read. -/
def bareText (cs : List Char) : List Char :=
  match readLexeme? cs with
  | none => cs
  | some (ls, rest) =>
    if _h : rest.length < cs.length then
      if startsComment cs && ls.isEmpty then bareText rest
      else cs.take (cs.length - rest.length) ++ bareText rest
    else cs
termination_by cs.length
decreasing_by all_goals exact _h

theorem bareText_comment {cs rest : List Char} (h : readLexeme? cs = some ([], rest))
    (hstarts : startsComment cs) (hlength : rest.length < cs.length)
    : bareText cs = bareText rest := by
  rw [bareText, h]
  simp [hstarts, hlength]

theorem bareText_newline (rest : List Char) : bareText ('\n' :: rest) = '\n' :: bareText rest := by
  have hread : readLexeme? ('\n' :: rest) = some ([], rest) := rfl
  have hstarts : startsComment ('\n' :: rest) = false := rfl
  rw [bareText, hread]
  simp [hstarts]

/-- A comment leaves the end of its line. -/
theorem bareText_commentLine {line : List Char} (h : '\n' ∉ line) (rest : List Char)
    : bareText ((commentLine line).toList ++ rest) = '\n' :: bareText rest := by
  have hstarts : startsComment ((commentLine line).toList ++ rest) := by
    rcases exists_commentLine line with ⟨cs, hcs⟩
    rw [hcs]
    rfl
  rw [bareText_comment (readLexeme?_commentLine h rest) hstarts (length_lt_commentLine line rest),
    bareText_newline]

theorem inkedLines_header (banner modulePath : String) (rest : List Char)
    : inkedLines (bareText ((header banner modulePath).toList ++ rest))
        =
      inkedLines (bareText ((header "" modulePath).toList ++ rest)) := by
  have hcomments : ∀ (ls : List (List Char)) (rest : List Char), (∀ l ∈ ls, '\n' ∉ l) →
      inkedLines (bareText ((String.join (ls.map commentLine)).toList ++ rest))
        = inkedLines (bareText rest) := by
    intro ls rest hls
    induction ls with
    | nil => rfl
    | cons l ls ih =>
      rw [List.forall_mem_cons] at hls
      rw [List.map_cons, String.join_cons, String.toList_append, List.append_assoc,
        bareText_commentLine hls.left, inkedLines_newline, ih hls.right]
  have hnone : header "" modulePath
      = (if modulePath = "" then "" else "// Module: " ++ modulePath ++ "\n") ++ "\n" := by
    rw [header]
    exact congrArg (· ++ "\n") (String.empty_append ..)
  rw [hnone, header, String.append_assoc, String.toList_append, List.append_assoc,
    hcomments _ _ fun l hl => newline_not_mem_of_mem_lines hl]

end Rust

namespace Target

theorem eq_php_or_eq_rust (t : Target) : t = .php ∨ t = .rust := by
  cases t with
  | php => exact Or.inl rfl
  | rust => exact Or.inr rfl

/-- The lines of a file that are not blank without its comments. -/
def codeLines (t : Target) (code : String) : List String :=
  match t with
  | php => inkedLines (Php.bareText .page code.toList)
  | rust => inkedLines (Rust.bareText code.toList)

/-- Whether a banner stays in the comment that it is put in. -/
def Encloses (t : Target) (banner : String) : Prop :=
  t = .php → Php.endsComment banner.toList = false

end Target

namespace Config

variable {c : Config} {d : Descriptor} {banner : String}

theorem model_banner (c : Config) (banner : String) (d : Descriptor)
    : { c with banner }.model d = c.model d := by
  have hnames : { c with banner }.names = c.names := by
    have hsegment : { c with banner }.effectiveSegment = c.effectiveSegment := rfl
    have hmarker : { c with banner }.effectiveMarker = c.effectiveMarker := rfl
    rw [names, names, hsegment, hmarker]
  rw [model, model, hnames]

theorem exists_render_banner {proxy : ProxyClass} {code : String} (hmodel : c.model d = .ok proxy)
    (hcode : c.target.render proxy c = .ok code) (hold : c.target.Encloses c.banner)
    (hnew : c.target.Encloses banner)
    : ∃ code', c.target.render proxy { c with banner } = .ok code'
        ∧
      c.target.codeLines code' = c.target.codeLines code := by
  rcases c.target.eq_php_or_eq_rust with hphp | hrust
  . rw [hphp] at hcode
    rcases Php.outlineText_classSteps (Php.readable_of_model hmodel) c.indent with ⟨body, hbody⟩
    have hwords := (Php.readable_of_model hmodel).namespaceSegments
    have hrender := Php.render_banner hcode banner
    refine ⟨_, by rw [hphp]; exact hrender, ?_⟩
    simp only [hphp, Target.codeLines]
    rw [Php.render_eq_ok hcode, hbody, hbody, Php.inkedLines_file hwords (hold hphp),
      Php.inkedLines_file hwords (hnew hphp)]
  . rw [hrust] at hcode
    rcases Rust.render_eq_ok_iff.mp hcode with ⟨is, read, his, hread, rfl⟩
    have hrender : Rust.render proxy { c with banner } = .ok _ :=
      Rust.render_eq_ok_iff.mpr ⟨is, read, his, hread, rfl⟩
    refine ⟨_, by rw [hrust]; exact hrender, ?_⟩
    simp only [hrust, Target.codeLines, String.toList_append]
    rw [Rust.inkedLines_header banner, Rust.inkedLines_header c.banner]

theorem exists_markerSource_banner {code : String} (hcode : c.markerSource = .ok code)
    (hold : c.target.Encloses c.banner) (hnew : c.target.Encloses banner)
    : ∃ code', { c with banner }.markerSource = .ok code'
        ∧
      c.target.codeLines code' = c.target.codeLines code := by
  rcases c.target.eq_php_or_eq_rust with hphp | hrust
  . rcases (markerSource_php_iff hphp).mp hcode with ⟨m, hm, hall, rfl⟩
    have hwords : ∀ s ∈ m.segments, Php.IsWord s :=
      fun s hs => Php.isWord_of_isIdentifier (hall s hs)
    have henclosing : ∀ s ∈ m.enclosing, Php.IsWord s :=
      fun s hs => hwords s (List.dropLast_subset _ hs)
    have hname := Php.isWord_of_isIdentifier (QualifiedName.isIdentifier_shortName hm hall)
    have hsource := (markerSource_php_iff (c := { c with banner }) hphp).mpr ⟨m, hm, hall, rfl⟩
    refine ⟨_, hsource, ?_⟩
    simp only [hphp, Target.codeLines]
    rw [Php.outlineText_markerSteps hwords hname, Php.outlineText_markerSteps hwords hname,
      Php.inkedLines_file henclosing (hold hphp), Php.inkedLines_file henclosing (hnew hphp)]
  . rcases (markerSource_rust_iff hrust).mp hcode with ⟨m, name, hm, hname, rfl⟩
    have hsource := (markerSource_rust_iff (c := { c with banner }) hrust).mpr
      ⟨m, name, hm, hname, rfl⟩
    refine ⟨_, hsource, ?_⟩
    simp only [hrust, Target.codeLines, String.toList_append]
    rw [Rust.inkedLines_header banner, Rust.inkedLines_header c.banner]

/-- Files that differ in the banner differ in comments and blank lines at most, in PHP as long as
neither banner ends its comment. -/
theorem banner_is_comment (c : Config) (banner : String) (hold : c.target.Encloses c.banner)
    (hnew : c.target.Encloses banner)
    : (∀ d source, c.generate d = .ok source →
        ∃ code, { c with banner }.generate d = .ok { source with code }
          ∧ c.target.codeLines code = c.target.codeLines source.code)
        ∧
      ∀ code, c.markerSource = .ok code →
        ∃ code', { c with banner }.markerSource = .ok code'
          ∧ c.target.codeLines code' = c.target.codeLines code := by
  constructor
  . intro d source h
    rcases generate_eq_ok h with ⟨proxy, hmodel, hcode, hnamespace, hclass, hpath⟩
    rcases exists_render_banner hmodel hcode hold hnew with ⟨code, hrender, hlines⟩
    refine ⟨code, ?_, hlines⟩
    have hsource := generate_of_render ((model_banner c banner d).trans hmodel) hrender
    rw [hsource, hnamespace, hclass, hpath]
  . intro code h
    exact exists_markerSource_banner h hold hnew

/-- A banner with marks of comments in it, none of which closes one. -/
def markedBanner : String :=
  "Article *\r\n/\n\n/** ?> // # \""

theorem banner_is_comment_article
    : Target.php.Encloses "" ∧ Target.php.Encloses markedBanner
        ∧
      ∃ source code, ({ indent := 2, banner := "" } : Config).generate Php.article = .ok source
        ∧
      ({ indent := 2, banner := markedBanner } : Config).generate Php.article
        = .ok { source with code }
        ∧
      Target.php.codeLines code = Target.php.codeLines source.code := by
  have hold : Target.php.Encloses "" := fun _ => by decide
  have hnew : Target.php.Encloses markedBanner := fun _ => by decide
  rcases map_eq_ok_iff.mp Php.generate_article with ⟨source, hsource, -⟩
  rcases (banner_is_comment _ markedBanner hold hnew).left _ source hsource with
    ⟨code, hcode, hlines⟩
  exact ⟨hold, hnew, source, code, hsource, hcode, hlines⟩

/-- In PHP a banner may close its comment. -/
theorem banner_ends_comment
    : ¬ ∀ (c : Config) (banner : String) (d : Descriptor) (source other : Source),
        c.generate d = .ok source → { c with banner }.generate d = .ok other →
          c.target.codeLines other.code = c.target.codeLines source.code := by
  intro h
  rcases map_eq_ok_iff.mp Php.generate_article with ⟨source, hsource, -⟩
  rcases generate_eq_ok hsource with ⟨proxy, hmodel, hcode, -⟩
  have hother := generate_of_render ((model_banner _ "a */ b" _).trans hmodel)
    (Php.render_banner hcode "a */ b")
  have hlines := h { indent := 2, banner := "" } "a */ b" _ source _ hsource hother
  have hreadable := Php.readable_of_model hmodel
  rcases Php.outlineText_classSteps hreadable 2 with ⟨body, hbody⟩
  have hsame : Target.php.codeLines (outlineText 2 (Php.classSteps proxy "a */ b"))
      = Target.php.codeLines (outlineText 2 (Php.classSteps proxy "")) := by
    rw [Php.render_eq_ok hcode] at hlines
    exact hlines
  simp only [Target.codeLines, hbody] at hsame
  rw [Php.inkedLines_endedComment hreadable.namespaceSegments,
    Php.inkedLines_file hreadable.namespaceSegments (by decide), Php.linesText_append,
    String.toList_append, Php.bareText_openingLines hreadable.namespaceSegments,
    Php.inkedLines_linesText_append, List.append_cancel_left_eq] at hsame
  have hlength := congrArg List.length hsame
  rw [List.length_cons, List.length_cons] at hlength
  omega

end Config

end LazyProxy
