import ChapelServer.Proofs.Settings.Idempotence
import ChapelServer.Proofs.Template.Written

/-!
# The name of the pass log

A client that wants texts and fields in the name of the pass log writes them one after the other,
with the braces of the texts doubled. The name is then made of exactly these: no brace of a text is
taken for one of a field, and what stands for a field is not looked at again. Such a template is
always taken, without the blanks around it.
-/

namespace ChapelServer.Settings

/-- A part of the name: a text that stands for itself, or a field. -/
inductive Piece
  | literal (text : Text)
  | stem
  | passNumber
  | passName
  deriving DecidableEq, Repr

/-- A field as it is written: its name in braces. -/
def braced (name : String) : Text :=
  [.char '{'] ++ Text.ofString name ++ [.char '}']

namespace Piece

/-- The piece as it is written in a template, with each brace of a text doubled. -/
def written : Piece → Text
  | .literal text => text.flatMap Template.escape
  | .stem => braced "stem"
  | .passNumber => braced "pass_number"
  | .passName => braced "pass_name"

/-- What the piece stands for. -/
def text (s : Settings) : Piece → Text
  | .literal text => text
  | .stem => s.stagingStem
  | .passNumber => .ofChars (Number.decimal s.passNumber)
  | .passName => s.passName

end Piece

/-- The template that is written from pieces. -/
def templateOf (pieces : List Piece) : Text :=
  pieces.flatMap Piece.written

/-! ## Pieces are segments -/

/-- A field with nothing but a name. -/
def fieldOf (name : String) : Template.Segment :=
  .field (Text.ofString name) none [] false

/-- The segments of a piece. -/
def Piece.segments : Piece → List Template.Segment
  | .literal text => text.map .char
  | .stem => [fieldOf "stem"]
  | .passNumber => [fieldOf "pass_number"]
  | .passName => [fieldOf "pass_name"]

/-- The text of a segment of a piece. -/
def segmentText (s : Settings) : Template.Segment → Text
  | .char c => [c]
  | .field name _ _ _ =>
    ((Template.resolve s.templateArguments name).toOption.map Template.Argument.plain).getD []
  | .malformed => []

theorem Piece.written_eq (piece : Piece) :
    piece.written = piece.segments.flatMap Template.Segment.written := by
  cases piece with
  | literal text => simp only [written, segments, List.flatMap_map, Template.Segment.written]
  | stem | passNumber | passName => exact (List.append_nil _).symm

theorem isPlain_of_mem {pieces : List Piece} {g : Template.Segment}
    (h : g ∈ pieces.flatMap Piece.segments) : g.IsPlain := by
  obtain ⟨piece, -, h⟩ := List.mem_flatMap.mp h
  cases piece with
  | literal text =>
    obtain ⟨c, -, rfl⟩ := List.mem_map.mp h
    exact .char c
  | stem | passNumber | passName =>
    rw [List.mem_singleton.mp h]
    exact .field (by simp [Template.reserved, Text.ofString, Text.ofChars])

theorem fill_fieldOf {s : Settings} {name : String} {argument : Template.Argument}
    (h : Template.resolve s.templateArguments (Text.ofString name) = .ok argument) (room : Nat)
    (inner : Text → Except Template.Error Text) :
    (fieldOf name).fill room s.templateArguments inner = .ok (segmentText s (fieldOf name)) := by
  rw [fieldOf, Template.fill_plainField h, segmentText, h]
  rfl

/-- Each segment of a piece is filled in by its text. -/
theorem fill_of_mem {pieces : List Piece} {g : Template.Segment}
    (h : g ∈ pieces.flatMap Piece.segments) (s : Settings) (room : Nat)
    (inner : Text → Except Template.Error Text) :
    g.fill room s.templateArguments inner = .ok (segmentText s g) := by
  obtain ⟨piece, -, h⟩ := List.mem_flatMap.mp h
  cases piece with
  | literal text =>
    obtain ⟨c, -, rfl⟩ := List.mem_map.mp h
    rfl
  | stem =>
    rw [List.mem_singleton.mp h]
    have hresolve : Template.resolve s.templateArguments (Text.ofString "stem") =
        .ok (.text s.stagingStem) := rfl
    exact fill_fieldOf hresolve room inner
  | passNumber =>
    rw [List.mem_singleton.mp h]
    have hresolve : Template.resolve s.templateArguments (Text.ofString "pass_number") =
        .ok (.number s.passNumber) := rfl
    exact fill_fieldOf hresolve room inner
  | passName =>
    rw [List.mem_singleton.mp h]
    have hresolve : Template.resolve s.templateArguments (Text.ofString "pass_name") =
        .ok (.text s.passName) := rfl
    exact fill_fieldOf hresolve room inner

theorem Piece.text_eq (piece : Piece) (s : Settings) :
    piece.text s = piece.segments.flatMap (segmentText s) := by
  cases piece with
  | literal text => simp [Piece.text, segments, List.flatMap_map, segmentText]
  | stem | passNumber | passName => exact (List.append_nil _).symm

/-! ## Filling in and reading -/

/-- Segments of pieces are filled in one after the other, whichever of them are left. -/
theorem artifactName_of_segments {pieces : List Piece} {gs : List Template.Segment}
    (h : ∀ g ∈ gs, g ∈ pieces.flatMap Piece.segments) {s : Settings}
    (hs : s.artifactTemplate = gs.flatMap Template.Segment.written) (room : Nat) :
    s.artifactName room = .ok (gs.flatMap (segmentText s)) := by
  have hplain : ∀ g ∈ gs, g.IsPlain := fun g hg => isPlain_of_mem (h g hg)
  rw [artifactName, hs, Template.fill, Template.fillTo, Template.segments_written hplain,
    Template.fillSegments_of_fill fun g hg => fill_of_mem (h g hg) s room _]

theorem templateOf_eq (pieces : List Piece) :
    templateOf pieces = (pieces.flatMap Piece.segments).flatMap Template.Segment.written := by
  rw [templateOf, List.flatMap_assoc]
  exact List.flatMap_congr fun piece _ => piece.written_eq

/-- Trimming the template leaves what is written from some of its segments. -/
theorem stripped_templateOf (pieces : List Piece) :
    ∃ gs : List Template.Segment, (∀ g ∈ gs, g ∈ pieces.flatMap Piece.segments) ∧
      (templateOf pieces).stripped = gs.flatMap Template.Segment.written := by
  have htrim := Template.trim_written fun g (hg : g ∈ pieces.flatMap Piece.segments) =>
    isPlain_of_mem hg
  rw [templateOf_eq, htrim]
  refine ⟨_, fun g hg => ?_, rfl⟩
  exact (List.dropWhile_sublist _).mem ((List.rdropWhile_prefix _ _).mem hg)

theorem segmentText_join (pieces : List Piece) (s : Settings) :
    (pieces.flatMap Piece.segments).flatMap (segmentText s) = pieces.flatMap (Piece.text s) := by
  rw [List.flatMap_assoc]
  exact List.flatMap_congr fun piece _ => (piece.text_eq s).symm

/-- A section with nothing but a template is read without a warning, if the template can be filled
in. -/
theorem ofValue_template {room : Nat} {template : Text} (hne : template.stripped ≠ [])
    (hname : ∃ name,
      ({ artifactTemplate := template.stripped } : Settings).artifactName room = .ok name)
    (wrapped : Bool) :
    ofValue room (payload wrapped [("artifactTemplate", .text template)]) =
      (.ok { artifactTemplate := template.stripped }, []) := by
  obtain ⟨name, hname⟩ := hname
  have hread : readText (.text template) = .taken template.stripped := by
    simp only [readText, if_neg hne]
  have hsection : sectionOf? (payload wrapped [("artifactTemplate", .text template)]) =
      some [(Text.ofString "artifactTemplate", .text template)] := by
    cases wrapped <;> rfl
  have hfields : readSection room [("artifactTemplate", .text template)] =
      checkTemplate room { artifactTemplate := template.stripped } := by
    have htake : take [("artifactTemplate", .text template)] "artifactTemplate" readText
        ({} : Settings).artifactTemplate Value.text = pure template.stripped :=
      take_taken rfl hread
    simp only [readSection, htake, pure_bind]
    rfl
  have hcheck : checkTemplate room { artifactTemplate := template.stripped } =
      pure { artifactTemplate := template.stripped } := by
    simp only [checkTemplate, hname]
  simp only [ofValue, hsection, hfields, hcheck]
  exact gives_pure _ []

/-- A name that is asked for piece by piece is made of these pieces: the texts as they stand, and
what the fields stand for, in which nothing is taken for a field again. The pass number is there in
decimal. Unless it is blank, the template is taken as it is, without the blanks around it and
without a warning. -/
theorem artifactName_of_pieces (pieces : List Piece) (s : Settings) (room : Nat)
    (short : s.passNumber.natAbs < 10 ^ Number.maxDigits) :
    { s with artifactTemplate := templateOf pieces }.artifactName room =
        .ok (pieces.flatMap (Piece.text s)) ∧
      Number.integer? (Number.decimal s.passNumber) = some s.passNumber ∧
      ((templateOf pieces).stripped ≠ [] → ∀ wrapped,
        ofValue room (payload wrapped [("artifactTemplate", .text (templateOf pieces))]) =
          (.ok { artifactTemplate := (templateOf pieces).stripped }, [])) := by
  refine ⟨?_, Number.integer?_decimal short, fun hne => ?_⟩
  · rw [artifactName_of_segments (fun _ => id) (templateOf_eq pieces)]
    exact congrArg Except.ok (segmentText_join pieces s)
  · obtain ⟨gs, hgs, htemplate⟩ := stripped_templateOf pieces
    exact ofValue_template hne ⟨_, artifactName_of_segments hgs htemplate room⟩

/-- Braces of the texts meet those of the fields, the stem looks like a field itself, and there are
blanks at both ends. -/
theorem artifactName_of_pieces_braces :
    let pieces : List Piece :=
      [.literal " \x7b", .stem, .literal "\x7d\x7d", .passNumber, .passName, .literal "\x7b \t"]
    let s : Settings :=
      { stagingStem := "\x7bpass_name\x7d", passName := "\x7b\x7d", passNumber := -4 }
    templateOf pieces = Text.ofString
        " \x7b\x7b\x7bstem\x7d\x7d\x7d\x7d\x7d\x7bpass_number\x7d\x7bpass_name\x7d\x7b\x7b \t" ∧
      { s with artifactTemplate := templateOf pieces }.artifactName Template.maxNumber =
        .ok " \x7b\x7bpass_name\x7d\x7d\x7d-4\x7b\x7d\x7b \t" ∧
      ofValue Template.maxNumber
          (payload true [("artifactTemplate", .text (templateOf pieces))]) =
        (.ok { artifactTemplate :=
          "\x7b\x7b\x7bstem\x7d\x7d\x7d\x7d\x7d\x7bpass_number\x7d\x7bpass_name\x7d\x7b\x7b" },
          []) := by
  intro pieces s
  have hname := artifactName_of_pieces pieces s Template.maxNumber (by decide +kernel)
  have htrim : (templateOf pieces).stripped = Text.ofString
      "\x7b\x7b\x7bstem\x7d\x7d\x7d\x7d\x7d\x7bpass_number\x7d\x7bpass_name\x7d\x7b\x7b" := by
    decide +kernel
  have hjoin : pieces.flatMap (Piece.text s) = Text.ofString
      " \x7b\x7bpass_name\x7d\x7d\x7d-4\x7b\x7d\x7b \t" := by
    decide +kernel
  rw [htrim, hjoin] at hname
  exact ⟨by decide +kernel, hname.1, hname.2.2 (by decide) true⟩

end ChapelServer.Settings
