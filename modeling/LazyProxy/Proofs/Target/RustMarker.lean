import LazyProxy.Proofs.Code.Lexing
import LazyProxy.Proofs.Layout.Box
import LazyProxy.Proofs.Target.RustReading

/-!
This module contains the text of the marker trait in Rust, which depends on nothing but its name, and
that it is read as that trait again, comments apart.
-/

namespace LazyProxy.Rust

open Code Layout Text

theorem boxes_docAttribute {text : String} (h : (docAttribute text).doc? = some text)
    (hcomment : !text.toList.contains '\n' && text.toList.head? != some '/')
    (hspaces : dropSpaces text = text)
    : (docAttribute text).boxes = [.text "///", .text text, lineEnd 0] := by
  unfold Attribute.boxes
  rw [h]
  simp only [hcomment, hspaces, if_true]

theorem renderBoxes_lineEnd (outside : Nat) (p : Page) (offset : Int) (bs : List Box)
    : renderBoxes .consistent outside p (lineEnd offset :: bs)
        =
      renderBoxes .consistent outside (p.newLine { blank := unbounded, offset }) bs := by
  exact renderBoxes_brk rfl

deriving instance DecidableEq for Page

/-- The functions of the marker trait. -/
def markerFunctions : List Function :=
  [{ signature :=
        { name := plain "is_initialized", receiver := some (.borrowed false),
          output := some (named (plain "bool")) }
     body := none },
    { signature :=
        { name := plain "set_initialized", receiver := some (.borrowed true),
          params := [(plain "initialized", named (plain "bool"))] }
      body := none }]

/-- The lines of the marker trait behind the one that opens it. -/
def markerLines : List Box :=
  bracedLines.go (markerFunctions.map Function.boxes)

/-- What the marker trait is written as, without its documentation. -/
def markerText (name : Ident) : String :=
  "pub trait " ++ name.text ++ " \x7b\n" ++ ("    fn is_initialized(&self) -> bool;\n" ++
    "    fn set_initialized(&mut self, initialized: bool);\n")

theorem renderBoxes_markerLines
    : renderBoxes .consistent 1 { space := 85, pending := 4, indent := 4 } markerLines
        =
      { written := "    fn is_initialized(&self) -> bool;\n"
          ++ "    fn set_initialized(&mut self, initialized: bool);\n"
        indent := 4 } := by
  decide

theorem renderBoxes_markerTrait (name : Ident)
    : renderBoxes .consistent 1 { indent := 4 }
        (.text "pub " :: .text "trait " :: name.box :: .text " " :: .text "\x7b" :: lineEnd 0 ::
          markerLines)
        =
      { written := markerText name, indent := 4 } := by
  have hopened : ((((((Page.write { indent := 4 } "pub ").write "trait ").write name.text).write
      " ").write "\x7b").newLine { blank := unbounded, offset := 0 })
      = Page.after ("pub trait " ++ name.text ++ " \x7b\n")
        { space := 85, pending := 4, indent := 4 } := by
    have hpush : " \x7b\n" = (" " ++ "\x7b").push '\n' := by decide
    have hspace : max (margin - 4) leastSpace = 85 := rfl
    rw [hpush]
    simp [Page.newLine, Page.write, Page.writeBlanks, Page.after, ← append_push, String.append_assoc,
      hspace]
  rw [renderBoxes_text, renderBoxes_text, Ident.box, renderBoxes_text, renderBoxes_text,
    renderBoxes_text, renderBoxes_lineEnd, hopened, renderBoxes_after, renderBoxes_markerLines]
  simp [Page.after, markerText]

/-- The documentation of the marker trait. -/
def markerDoc : String :=
  " Capability marker implemented by every generated proxy."

theorem fileText_markerTrait (name : Ident)
    : fileText [markerTrait name] = "///" ++ markerDoc ++ "\n" ++ (markerText name ++ "\x7d\n") := by
  have hdoc : (docAttribute markerDoc).boxes = [.text "///", .text markerDoc, lineEnd 0] :=
    boxes_docAttribute (by decide) (by decide) (by decide)
  have hboxes : ((Item.boxesOfList [markerTrait name]).flatMap (· ++ [lineEnd 0]))
      = .text "///" :: .text markerDoc :: lineEnd 0 ::
        [.group step true none (.text "pub " :: .text "trait " :: name.box :: .text " " ::
          .text "\x7b" :: lineEnd 0 :: markerLines), .text "\x7d", lineEnd 0] := by
    simp only [Item.boxesOfList, markerTrait, Item.boxes, Attribute.boxesOfList, List.flatMap_cons]
    rw [← markerDoc, hdoc]
    rfl
  have hline : ((Page.write {} "///").write markerDoc).newLine { blank := unbounded, offset := 0 }
      = Page.after ("///" ++ markerDoc ++ "\n") {} := by
    decide
  -- From here on it does not matter what the first line is.
  generalize "///" ++ markerDoc ++ "\n" = w at hline ⊢
  have htrait : renderBoxes .consistent 1 (Page.after w { indent := 4 }) (.text "pub " ::
      .text "trait " :: name.box :: .text " " :: .text "\x7b" :: lineEnd 0 :: markerLines)
      = Page.after w { written := markerText name, indent := 4 } := by
    rw [renderBoxes_after, renderBoxes_markerTrait]
  have hlast : ((Page.write { (Page.after w { written := markerText name, indent := 4 }) with
      indent := 0 } "\x7d").newLine { blank := unbounded, offset := 0 })
      = { written := w ++ (markerText name ++ "\x7d\n") } := by
    have hpush : "\x7d\n" = "\x7d".push '\n' := by decide
    have hspace : max margin leastSpace = 89 := rfl
    rw [hpush]
    simp [Page.newLine, Page.write, Page.writeBlanks, Page.after, ← append_push, String.append_assoc,
      hspace]
    rfl
  have hfile : renderBoxes .consistent 0 {} (.text "///" :: .text markerDoc :: lineEnd 0 ::
        [.group step true none (.text "pub " :: .text "trait " :: name.box :: .text " " ::
          .text "\x7b" :: lineEnd 0 :: markerLines), .text "\x7d", lineEnd 0])
      = { written := w ++ (markerText name ++ "\x7d\n") } := by
    rw [renderBoxes_text, renderBoxes_text, renderBoxes_lineEnd, hline]
    refine Eq.trans (renderBoxes_group (b := { blank := unbounded }) ?_ ?_ rfl htrait) ?_
    . simp [lineEnd]
    . have hspace : margin < unbounded := by decide
      exact hspace
    . rw [renderBoxes_text, renderBoxes_lineEnd]
      exact hlast
  rw [fileText, hboxes, Layout.render]
  have hpage : renderBoxes .filled 0 {} [.group 0 true none (.text "///" :: .text markerDoc ::
      lineEnd 0 :: [.group step true none (.text "pub " :: .text "trait " :: name.box :: .text " " ::
        .text "\x7b" :: lineEnd 0 :: markerLines), .text "\x7d", lineEnd 0])]
      = { written := w ++ (markerText name ++ "\x7d\n") } := by
    refine Eq.trans (renderBoxes_group (b := { blank := unbounded }) ?_ ?_ rfl hfile) rfl
    . simp [lineEnd]
    . decide
  rw [hpage]

/-- A documentation comment up to the end of its line. -/
theorem lexemes?_docLine {line : List Char} (hline : '\n' ∉ line) (hstart : line.head? ≠ some '/')
    (hreturn : line.getLast? ≠ some '\r') (hreturns : returnsEndLines line) (rest : List Char)
    : lexemes? ('/' :: '/' :: '/' :: (line ++ '\n' :: rest))
        =
      (lexemes? rest).map (Code.docAttribute false line ++ ·) := by
  have hdrop := dropLine_append hline rest
  have htake : (line ++ '\n' :: rest).takeWhile (· != '\n') = line := by
    rw [List.takeWhile_append_of_pos]
    . simp
    . intro c hc
      rw [bne_iff_ne]
      rintro rfl
      exact hline hc
  have hdoc : readDocLine? false (line ++ '\n' :: rest)
      = some (Code.docAttribute false line, '\n' :: rest) := by
    have hlast : (line.getLast? != some '\r') = true := by simpa using hreturn
    rw [readDocLine?, htake, hdrop, hlast, Bool.or_true]
    simp [hreturns]
  have hcomment : readComment? ('/' :: '/' :: '/' :: (line ++ '\n' :: rest))
      = some (Code.docAttribute false line, '\n' :: rest) := by
    rw [← hdoc]
    cases line with
    | nil => rfl
    | cons c line =>
      have hc : c ≠ '/' := by simpa using hstart
      rw [List.cons_append, readComment?]
      simpa using hc
  have hread : readLexeme? ('/' :: '/' :: '/' :: (line ++ '\n' :: rest))
      = some (Code.docAttribute false line, '\n' :: rest) := by
    have hstarts : startsComment ('/' :: '/' :: '/' :: (line ++ '\n' :: rest)) = true := rfl
    rw [readLexeme?, if_neg (by decide), if_pos hstarts, hcomment]
  rw [lexemes?_eq hread (by simp; omega), lexemes?_gap (by decide)]

/-- The lexemes behind the name of the marker trait. -/
def markerLexemes : List Lexeme :=
  [.opening .brace, .token (.word "fn"), .token (.word "is_initialized"), .opening .paren,
    .token (.punct '&' false), .token (.word "self"), .closing .paren, .token (.punct '-' true),
    .token (.punct '>' false), .token (.word "bool"), .token (.punct ';' false),
    .token (.word "fn"), .token (.word "set_initialized"), .opening .paren,
    .token (.punct '&' false), .token (.word "mut"), .token (.word "self"),
    .token (.punct ',' false), .token (.word "initialized"), .token (.punct ':' false),
    .token (.word "bool"), .closing .paren, .token (.punct ';' false), .closing .brace]

theorem lexemes?_markerBody
    : lexemes? (" \x7b\n" ++ ("    fn is_initialized(&self) -> bool;\n" ++
        "    fn set_initialized(&mut self, initialized: bool);\n") ++ "\x7d\n").toList
        =
      some markerLexemes := by
  decide +kernel

theorem lexemes?_fileText_markerTrait {name : Ident} (h : name.IsWritten)
    : lexemes? (fileText [markerTrait name]).toList
        =
      some (Code.docAttribute false markerDoc.toList ++
        .token (.word "pub") :: .token (.word "trait") :: .token (.ident name) :: markerLexemes) := by
  have htext : (fileText [markerTrait name]).toList
      = '/' :: '/' :: '/' :: (markerDoc.toList ++ '\n' :: ((plain "pub").text.toList ++
        (' ' :: ((plain "trait").text.toList ++ (' ' :: (name.text.toList ++
          (" \x7b\n" ++ ("    fn is_initialized(&self) -> bool;\n" ++
            "    fn set_initialized(&mut self, initialized: bool);\n") ++ "\x7d\n").toList)))))) := by
    have hpub : "pub trait ".toList
        = (plain "pub").text.toList ++ (' ' :: ((plain "trait").text.toList ++ [' '])) := rfl
    have hdoc : "///".toList = ['/', '/', '/'] := rfl
    have hline : "\n".toList = ['\n'] := rfl
    rw [fileText_markerTrait, markerText]
    simp only [String.toList_append, hpub, hdoc, hline, List.append_assoc, List.cons_append,
      List.nil_append]
  have hblank (cs : List Char) : endsWord (' ' :: cs) := by
    have hblank : (!isWordPart ' ' && !(['"', '\'', '#'].contains ' ')) = true := by
      decide
    exact hblank
  rw [htext, lexemes?_docLine (by decide) (by decide) (by decide)
    (by decide), lexemes?_text ⟨by decide, by decide⟩ (hblank _),
    lexemes?_gap (by decide), lexemes?_text ⟨by decide, by decide⟩ (hblank _),
    lexemes?_gap (by decide), lexemes?_text h (by decide), lexemes?_markerBody]
  rfl

theorem nest?_markerTrait (name : Ident)
    : nest? [] [] (Code.docAttribute false markerDoc.toList ++
        .token (.word "pub") :: .token (.word "trait") :: .token (.ident name) :: markerLexemes)
        =
      some (Item.tokensOfList [markerTrait name]) := by
  rfl

theorem head?_header_append (banner modulePath : String) (rest : List Char)
    : ((header banner modulePath).toList ++ rest).head? ≠ some '\ufeff' := by
  unfold header
  cases Text.lines banner.toList with
  | nil =>
    split
    . simp
    . simp
  | cons line others =>
    rcases exists_commentLine line with ⟨cs, hcs⟩
    simp [hcs]

/-- The file of the marker trait is read as the trait alone: its header has only comments. -/
theorem tokens?_markerFile (banner : String) {modulePath : String} (hmodule : '\n' ∉ modulePath.toList)
    {name : Ident} (h : name.IsWritten)
    : tokens? (header banner modulePath ++ fileText [markerTrait name])
        =
      some (Item.tokensOfList [markerTrait name]) := by
  have hhead := head?_header_append banner modulePath (fileText [markerTrait name]).toList
  rw [tokens?_eq (by rwa [String.toList_append]), String.toList_append, lexemes?_header banner hmodule,
    lexemes?_fileText_markerTrait h, Option.bind_some, nest?_markerTrait]

theorem isReadable_markerTrait {name : Ident} (h : name.isName) : (markerTrait name).IsReadable := by
  refine .trait (List.forall_mem_singleton.mpr (readsBack_docAttribute _)) rfl h ?_
  rw [List.forall_mem_cons, List.forall_mem_singleton]
  constructor
  . refine ⟨List.forall_mem_nil _, rfl, ⟨rfl, List.forall_mem_nil _, ?_⟩, nofun⟩
    rintro t ⟨⟩
    exact readsBack_named rfl true
  . refine ⟨List.forall_mem_nil _, rfl, ⟨rfl, ?_, nofun⟩, nofun⟩
    exact List.forall_mem_singleton.mpr ⟨rfl, readsBack_named rfl true⟩

theorem readFile?_markerTrait {name : Ident} (h : name.isName)
    : readFile? (Item.tokensOfList [markerTrait name]) = some [markerTrait name] :=
  readFile?_tokensOfList (List.forall_mem_singleton.mpr (isReadable_markerTrait h))

/-- The marker trait is written if the marker is a qualified name whose last segment is a name. -/
theorem renderMarker_eq_ok_iff {config : Config} {code : String}
    : renderMarker config = .ok code
        ↔
      ∃ marker name, QualifiedName.parse? config.effectiveMarker = some marker
        ∧
      Ident.ofText? marker.shortName = some name
        ∧
      code = header config.banner (Text.join "::" marker.enclosing) ++ fileText [markerTrait name] := by
  unfold renderMarker
  split
  . next hmarker => simp [hmarker]
  . next marker hmarker =>
    split
    . next hname => simp [hmarker, hname]
    . next name hname =>
      have hread : readBack [markerTrait name] = .ok [markerTrait name] := by
        rw [readBack, readFile?_markerTrait (isWritten_of_ofText? hname).right]
      have hrender : (do
          let is ← readBack [markerTrait name]
          Except.ok (header config.banner (Text.join "::" marker.enclosing) ++ fileText is))
            = (Except.ok (header config.banner (Text.join "::" marker.enclosing)
              ++ fileText [markerTrait name]) : Except EmissionError String) := by
        rw [hread]
        rfl
      rw [hrender]
      simp [hmarker, hname, eq_comm]

end LazyProxy.Rust
