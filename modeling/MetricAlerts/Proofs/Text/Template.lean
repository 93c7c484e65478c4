import MetricAlerts.Proofs.Store.Entries
import MetricAlerts.Template

/-! What a template says. It can be taken apart in one way only into placeholders, the texts before
them and a text at the end, and this depends on the template alone. The message for an alert has the
value of each name in the place of its placeholder, whatever braces there are in it. -/

namespace MetricAlerts.Template

/-- There is no doubled `c` in a text, and none begins at its end. -/
structure IsClear (c : Char) (cs : List Char) : Prop where
  single : ¬ [c, c] <:+: cs
  last : cs.getLast? ≠ some c

/-! ### The first doubled character -/

section Break

variable {c first : Char} {cs before after inside : List Char}

theorem doubled_infix_cons :
    [c, c] <:+: first :: cs ↔ first = c ∧ cs.head? = some c ∨ [c, c] <:+: cs := by
  have hPrefix : [c] <+: cs ↔ cs.head? = some c := by
    simp only [List.cons_prefix_iff, List.head?_eq_some_iff, List.nil_prefix, and_true]
  rw [List.infix_cons_iff, List.cons_prefix_cons, hPrefix, eq_comm]

theorem isClear_nil : IsClear c [] := ⟨by simp, by simp⟩

/-- The last character is compared with the doubled `c` that is to follow. -/
theorem isClear_cons :
    IsClear c (first :: cs) ↔ ¬ (first = c ∧ (cs ++ [c]).head? = some c) ∧ IsClear c cs := by
  cases cs with
  | nil =>
    constructor
    · intro clear
      exact ⟨fun same => clear.last (congrArg some same.1), isClear_nil⟩
    · rintro ⟨other, -⟩
      refine ⟨?_, fun same => other ⟨Option.some.inj same, rfl⟩⟩
      rw [doubled_infix_cons]
      simp
  | cons second cs =>
    have hLast : (first :: second :: cs).getLast? = (second :: cs).getLast? :=
      List.getLast?_cons_cons
    rw [List.cons_append, List.head?_cons]
    constructor
    · intro clear
      have single := clear.single
      rw [doubled_infix_cons, not_or] at single
      exact ⟨single.1, single.2, hLast ▸ clear.last⟩
    · rintro ⟨other, clear⟩
      refine ⟨?_, hLast ▸ clear.last⟩
      rw [doubled_infix_cons, not_or]
      exact ⟨other, clear.single⟩

theorem head?_of_doubled (h : cs = before ++ c :: c :: after) :
    (before ++ [c]).head? = cs.head? := by
  rw [h]
  cases before <;> rfl

theorem breakAt?_doubled (c : Char) (after : List Char) :
    breakAt? c (c :: c :: after) = some ([], after) := by
  rw [breakAt?, if_pos ⟨rfl, rfl⟩]

theorem breakAt?_cons (single : ¬ (first = c ∧ cs.head? = some c)) :
    breakAt? c (first :: cs) = (breakAt? c cs).map fun parts => (first :: parts.1, parts.2) := by
  cases cs with
  | nil => rfl
  | cons second cs =>
    rw [List.head?_cons, Option.some_inj] at single
    rw [breakAt?, if_neg single]

theorem breakAt?_append (clear : IsClear c before) (after : List Char) :
    breakAt? c (before ++ c :: c :: after) = some (before, after) := by
  induction before with
  | nil => exact breakAt?_doubled c after
  | cons first before ih =>
    obtain ⟨single, clear⟩ := isClear_cons.mp clear
    rw [head?_of_doubled (Eq.refl (before ++ c :: c :: after))] at single
    rw [List.cons_append, breakAt?_cons single, ih clear]
    rfl

theorem breakAt?_eq_none (single : ¬ [c, c] <:+: cs) : breakAt? c cs = none := by
  induction cs with
  | nil => rfl
  | cons first cs ih =>
    rw [doubled_infix_cons, not_or] at single
    rw [breakAt?_cons single.1, ih single.2]
    rfl

/-- A doubled character has a first place. -/
theorem exists_clear_of_doubled (doubled : [c, c] <:+: cs) :
    ∃ before after, cs = before ++ c :: c :: after ∧ IsClear c before := by
  induction cs with
  | nil => exact absurd doubled (by simp)
  | cons first cs ih =>
    by_cases here : first = c ∧ cs.head? = some c
    · obtain ⟨rfl, hHead⟩ := here
      obtain ⟨after, rfl⟩ := List.head?_eq_some_iff.mp hHead
      exact ⟨[], after, rfl, isClear_nil⟩
    · have later := (doubled_infix_cons.mp doubled).resolve_left here
      obtain ⟨before, after, hSplit, clear⟩ := ih later
      refine ⟨first :: before, after, by rw [hSplit]; rfl, isClear_cons.mpr ⟨?_, clear⟩⟩
      rwa [head?_of_doubled hSplit]

theorem split_of_breakAt? (h : breakAt? c cs = some (before, after)) :
    cs = before ++ c :: c :: after ∧ IsClear c before := by
  by_cases doubled : [c, c] <:+: cs
  · obtain ⟨before', after', rfl, clear⟩ := exists_clear_of_doubled doubled
    rw [breakAt?_append clear] at h
    cases h
    exact ⟨rfl, clear⟩
  · rw [breakAt?_eq_none doubled] at h
    cases h

theorem single_of_breakAt? (h : breakAt? c cs = none) : ¬ [c, c] <:+: cs := by
  intro doubled
  obtain ⟨before, after, rfl, clear⟩ := exists_clear_of_doubled doubled
  rw [breakAt?_append clear] at h
  cases h

/-- What follows any doubled `c` stands in what follows the first one. -/
theorem suffix_of_isClear {other : List Char} (clear : IsClear c before)
    (same : before ++ c :: c :: after = other ++ c :: c :: inside) : inside <:+ after := by
  induction before generalizing other with
  | nil =>
    match other with
    | [] => cases same; exact List.suffix_refl _
    | [x] => cases same; exact List.suffix_cons c inside
    | x :: y :: other =>
      cases same
      exact ⟨other ++ [c, c], by rw [List.append_assoc]; rfl⟩
  | cons first before ih =>
    obtain ⟨single, clear⟩ := isClear_cons.mp clear
    cases other with
    | nil =>
      obtain ⟨rfl, rest⟩ := List.cons_eq_cons.mp same
      rw [head?_of_doubled rest.symm] at single
      exact absurd ⟨rfl, rfl⟩ single
    | cons x other => exact ih clear (List.cons_eq_cons.mp same).2

end Break

/-! ### Layouts -/

/-- A placeholder with the text before it. -/
structure Field where
  before : List Char
  name : List Char

/-- Placeholders, each behind its text, and the text behind the last one. -/
structure Layout where
  fields : List Field
  rest : List Char

namespace Layout

def chars (layout : Layout) : List Char :=
  layout.fields.flatMap (fun f => f.before ++ '{' :: '{' :: (f.name ++ ['}', '}'])) ++ layout.rest

/-- The texts are those up to the first opening, the names those up to the first closing, and no
opening at the end has a closing behind it. -/
structure IsPlain (layout : Layout) : Prop where
  texts : ∀ f ∈ layout.fields, IsClear '{' f.before
  names : ∀ f ∈ layout.fields, IsClear '}' f.name
  unclosed : ∀ before inside, layout.rest = before ++ '{' :: '{' :: inside →
    ¬ ['}', '}'] <:+: inside

def pieces (layout : Layout) : List Piece :=
  layout.fields.flatMap (fun f => [.text f.before, .placeholder f.name]) ++ [.text layout.rest]

/-- The text with values in the place of the placeholders. -/
def filled (value : List Char → String) (layout : Layout) : List Char :=
  layout.fields.flatMap (fun f => f.before ++ (value f.name).toList) ++ layout.rest

variable {layout other : Layout}

theorem pieces_injective (h : layout.pieces = other.pieces) : layout = other := by
  obtain ⟨fields, rest⟩ := layout
  obtain ⟨fields', rest'⟩ := other
  induction fields generalizing fields' with
  | nil =>
    cases fields' with
    | nil => cases h; rfl
    | cons f' fields' => cases h
  | cons f fields ih =>
    cases fields' with
    | nil => cases h
    | cons f' fields' =>
      obtain ⟨before, name⟩ := f
      obtain ⟨before', name'⟩ := f'
      simp only [pieces, List.flatMap_cons, List.cons_append, List.nil_append, List.cons.injEq,
        Piece.text.injEq, Piece.placeholder.injEq] at h
      obtain ⟨rfl, rfl, h⟩ := h
      cases ih fields' h
      rfl

theorem flatMap_renderPiece (alert : Alert) (layout : Layout) :
    layout.pieces.flatMap (renderPiece alert) =
      layout.filled fun name => valueOf (Text.trim name) alert := by
  rw [pieces, filled, List.flatMap_append, List.flatMap_assoc]
  simp [renderPiece]

end Layout

theorem pieces_of_unclosed {cs : List Char}
    (unclosed : ∀ before inside, cs = before ++ '{' :: '{' :: inside → ¬ ['}', '}'] <:+: inside) :
    pieces cs = [.text cs] := by
  rw [pieces]
  split
  · rfl
  · next before inside opening =>
    split
    · rfl
    · next name after closing =>
      obtain ⟨same, -⟩ := split_of_breakAt? opening
      obtain ⟨rfl, -⟩ := split_of_breakAt? closing
      exact absurd ⟨name, after, by simp⟩ (unclosed before _ same)

theorem pieces_append {f : Field} (text : IsClear '{' f.before) (name : IsClear '}' f.name)
    (after : List Char) :
    pieces (f.before ++ '{' :: '{' :: (f.name ++ '}' :: '}' :: after)) =
      .text f.before :: .placeholder f.name :: pieces after := by
  rw [pieces]
  split
  · next none => rw [breakAt?_append text] at none; cases none
  · next before inside opening =>
    rw [breakAt?_append text] at opening
    cases opening
    split
    · next none => rw [breakAt?_append name] at none; cases none
    · next closing =>
      rw [breakAt?_append name] at closing
      cases closing
      rfl

theorem pieces_chars {layout : Layout} (plain : layout.IsPlain) :
    pieces layout.chars = layout.pieces := by
  obtain ⟨fields, rest⟩ := layout
  induction fields with
  | nil => exact pieces_of_unclosed plain.unclosed
  | cons f fields ih =>
    obtain ⟨text, texts⟩ := List.forall_mem_cons.mp plain.texts
    obtain ⟨name, names⟩ := List.forall_mem_cons.mp plain.names
    have hChars : (Layout.mk (f :: fields) rest).chars =
        f.before ++ '{' :: '{' :: (f.name ++ '}' :: '}' :: (Layout.mk fields rest).chars) := by
      simp [Layout.chars]
    rw [hChars, pieces_append text name, ih ⟨texts, names, plain.unclosed⟩]
    rfl

/-- Every text has a layout. -/
theorem exists_layout (cs : List Char) : ∃ layout : Layout, layout.IsPlain ∧ layout.chars = cs := by
  fun_induction pieces cs with
  | case1 cs none =>
    refine ⟨⟨[], cs⟩, ⟨by simp, by simp, fun before inside same => ?_⟩, rfl⟩
    obtain rfl : cs = before ++ '{' :: '{' :: inside := same
    exact absurd ⟨before, inside, by simp⟩ (single_of_breakAt? none)
  | case2 cs before inside opening none =>
    obtain ⟨same, clear⟩ := split_of_breakAt? opening
    refine ⟨⟨[], cs⟩, ⟨by simp, by simp, fun before' inside' same' closed => ?_⟩, rfl⟩
    have hSuffix : inside' <:+ inside := suffix_of_isClear clear (same.symm.trans same')
    exact single_of_breakAt? none (closed.trans hSuffix.isInfix)
  | case3 cs before inside opening name after closing ih =>
    obtain ⟨rfl, text⟩ := split_of_breakAt? opening
    obtain ⟨rfl, clear⟩ := split_of_breakAt? closing
    obtain ⟨⟨fields, rest⟩, plain, rfl⟩ := ih
    refine ⟨⟨⟨before, name⟩ :: fields, rest⟩, ⟨?_, ?_, plain.unclosed⟩, ?_⟩
    · exact List.forall_mem_cons.mpr ⟨text, plain.texts⟩
    · exact List.forall_mem_cons.mpr ⟨clear, plain.names⟩
    · simp [Layout.chars]

/-! ### Values -/

/-- The fields of an alert with the names they have in templates. Where there is no value, the text
says so; where there is no explanation, the name is free. -/
def fieldTexts (alert : Alert) : List (String × String) :=
  [("id", alert.id), ("ruleId", alert.ruleId), ("ruleName", alert.ruleName),
    ("severity", alert.severity.name), ("status", alert.status.name), ("source", alert.source),
    ("value", (alert.value.map Alert.valueText).getD "n/a"), ("summary", alert.summary),
    ("startsAt", alert.startsAt.offsetText)] ++
  (alert.explanation.map ("explanation", ·)).toList

/-- A name stands for a field, a label or an annotation that an alert has. -/
inductive StandsFor (alert : Alert) : String → String → Prop
  | field {name text : String} (mem : (name, text) ∈ fieldTexts alert) : StandsFor alert name text
  | label {key text : String} (found : alert.labels.get? key = some text) :
      StandsFor alert ("labels." ++ key) text
  | annotated {key : String} {value : Json} (found : alert.annotations.get? key = some value) :
      StandsFor alert ("annotations." ++ key) (annotationText value)

/-- The text in the place of a placeholder: what its name stands for without the blanks around it,
and nothing if that is no name of the alert's. -/
def Fills (alert : Alert) (name : List Char) (text : String) : Prop :=
  StandsFor alert (String.ofList (Text.trim name)) text ∨
    text = "" ∧ ∀ other, ¬ StandsFor alert (String.ofList (Text.trim name)) other

variable {alert : Alert} {name : List Char} {text : String}

theorem afterPrefix?_eq_some_iff {start cs key : List Char} :
    afterPrefix? start cs = some key ↔ cs = start ++ key := by
  induction start generalizing cs with
  | nil => simp [afterPrefix?, eq_comm]
  | cons p start ih =>
    cases cs with
    | nil => simp [afterPrefix?]
    | cons c cs =>
      rw [afterPrefix?, Option.ite_none_right_eq_some, ih, List.cons_append, List.cons_eq_cons,
        eq_comm]

def fieldNames : List String :=
  ["id", "ruleId", "ruleName", "severity", "status", "source", "value", "summary", "startsAt",
    "explanation"]

theorem keys_fieldTexts_sublist (alert : Alert) : (keys (fieldTexts alert)).Sublist fieldNames := by
  rw [fieldTexts, keys_append]
  cases alert.explanation with
  | none => exact List.sublist_append_left _ ["explanation"]
  | some text => exact .refl _

theorem nodup_fieldTexts (alert : Alert) : (keys (fieldTexts alert)).Nodup :=
  (keys_fieldTexts_sublist alert).nodup (by decide)

/-- No field has the name of a label or an annotation. -/
theorem notPrefixed_fieldTexts {start : String} (h : start = "labels." ∨ start = "annotations.")
    (key : String) : start ++ key ∉ keys (fieldTexts alert) := by
  intro mem
  have hNames : ∀ field ∈ fieldNames, afterPrefix? "labels.".toList field.toList = none ∧
      afterPrefix? "annotations.".toList field.toList = none := by decide
  have hNone := hNames _ ((keys_fieldTexts_sublist alert).subset mem)
  have hSome : afterPrefix? start.toList (start ++ key).toList = some key.toList :=
    afterPrefix?_eq_some_iff.mpr String.toList_append
  rcases h with rfl | rfl
  · exact absurd (hSome.symm.trans hNone.1) (Option.some_ne_none _)
  · exact absurd (hSome.symm.trans hNone.2) (Option.some_ne_none _)

theorem valueOf_eq (name : List Char) (alert : Alert) :
    valueOf name alert =
      (lookup? (String.ofList name) (fieldTexts alert)).getD (entryText name alert) := by
  unfold valueOf
  split
  case h_10 hName =>
    obtain rfl : name = "explanation".toList := by rw [← hName, String.toList_ofList]
    rw [fieldTexts]
    cases alert.explanation <;> rfl
  case h_11 =>
    have hNone : lookup? (String.ofList name) (fieldTexts alert) = none := by
      refine lookup?_eq_none_iff.mpr fun mem => ?_
      have hField := (keys_fieldTexts_sublist alert).subset mem
      simp_all [fieldNames]
    rw [hNone, Option.getD_none]
  all_goals next hName => rw [hName]; rfl

theorem entryText_label (key : String) (alert : Alert) :
    entryText ("labels." ++ key).toList alert = (alert.labels.get? key).getD "" := by
  have hKey : afterPrefix? "labels.".toList ("labels." ++ key).toList = some key.toList :=
    afterPrefix?_eq_some_iff.mpr String.toList_append
  rw [entryText, hKey]
  simp only [String.ofList_toList]

theorem entryText_annotation (key : String) (alert : Alert) :
    entryText ("annotations." ++ key).toList alert =
      ((alert.annotations.get? key).map annotationText).getD "" := by
  have hKey : afterPrefix? "annotations.".toList ("annotations." ++ key).toList = some key.toList :=
    afterPrefix?_eq_some_iff.mpr String.toList_append
  have hOther : afterPrefix? "labels.".toList ("annotations." ++ key).toList = none := by
    rw [String.toList_append]
    rfl
  rw [entryText, hOther, hKey]
  simp only [String.ofList_toList]

theorem valueOf_of_standsFor (h : StandsFor alert (String.ofList name) text) :
    valueOf name alert = text := by
  generalize hName : String.ofList name = full at h
  obtain rfl : name = full.toList := by rw [← hName, String.toList_ofList]
  rw [valueOf_eq, String.ofList_toList]
  cases h with
  | field mem => rw [lookup?_of_mem (nodup_fieldTexts alert) mem, Option.getD_some]
  | @label key _ found =>
    rw [lookup?_eq_none_iff.mpr (notPrefixed_fieldTexts (.inl rfl) key), Option.getD_none,
      entryText_label, found, Option.getD_some]
  | @annotated key _ found =>
    rw [lookup?_eq_none_iff.mpr (notPrefixed_fieldTexts (.inr rfl) key), Option.getD_none,
      entryText_annotation, found, Option.map_some, Option.getD_some]

theorem valueOf_of_not_standsFor (h : ∀ text, ¬ StandsFor alert (String.ofList name) text) :
    valueOf name alert = "" := by
  have hField : lookup? (String.ofList name) (fieldTexts alert) = none :=
    Option.eq_none_iff_forall_ne_some.mpr fun text found => h text (.field (mem_of_lookup? found))
  have hLabel (key : String) (same : String.ofList name = "labels." ++ key) :
      alert.labels.get? key = none :=
    Option.eq_none_iff_forall_ne_some.mpr fun text found => h text (same ▸ .label found)
  have hAnnotated (key : String) (same : String.ofList name = "annotations." ++ key) :
      alert.annotations.get? key = none :=
    Option.eq_none_iff_forall_ne_some.mpr fun value found =>
      h (annotationText value) (same ▸ .annotated found)
  rw [valueOf_eq, hField, Option.getD_none, entryText]
  split
  · next key found =>
    rw [afterPrefix?_eq_some_iff.mp found, String.ofList_append, String.ofList_toList] at hLabel
    rw [hLabel _ rfl, Option.getD_none]
  · split
    · next key found =>
      rw [afterPrefix?_eq_some_iff.mp found, String.ofList_append, String.ofList_toList]
        at hAnnotated
      rw [hAnnotated _ rfl, Option.map_none, Option.getD_none]
    · rfl

theorem valueOf_trim_eq_iff : valueOf (Text.trim name) alert = text ↔ Fills alert name text := by
  constructor
  · rintro rfl
    by_cases h : ∃ text, StandsFor alert (String.ofList (Text.trim name)) text
    · obtain ⟨text, standsFor⟩ := h
      exact .inl (by rwa [valueOf_of_standsFor standsFor])
    · rw [not_exists] at h
      exact .inr ⟨valueOf_of_not_standsFor h, h⟩
  · rintro (standsFor | ⟨rfl, h⟩)
    · exact valueOf_of_standsFor standsFor
    · exact valueOf_of_not_standsFor h

/-! ### Rendering -/

/-- A template has one layout, and its text for an alert is that of the layout with the value of
each name in the place of the placeholder, as it is. -/
theorem exists_layout_render (template : String) :
    ∃ layout : Layout, (layout.IsPlain ∧ layout.chars = template.toList) ∧
      (∀ other : Layout, other.IsPlain → other.chars = template.toList → other = layout) ∧
      ∀ alert : Alert, ∃ value : List Char → String,
        (∀ name text, value name = text ↔ Fills alert name text) ∧
        render template alert = String.ofList (layout.filled value) := by
  obtain ⟨layout, plain, hChars⟩ := exists_layout template.toList
  refine ⟨layout, ⟨plain, hChars⟩, fun other plainOther hOther => ?_, fun alert => ?_⟩
  · refine Layout.pieces_injective ?_
    rw [← pieces_chars plainOther, hOther, ← hChars, pieces_chars plain]
  · refine ⟨fun name => valueOf (Text.trim name) alert, fun _ _ => valueOf_trim_eq_iff, ?_⟩
    rw [render, ← hChars, pieces_chars plain, Layout.flatMap_renderPiece]

/-- An alert of an anomaly that nothing was measured for, with braces in a label. -/
def brokenLink : Alert where
  id := "al-1"
  ruleId := "db_anomaly"
  ruleName := "DB anomaly"
  severity := .error
  status := .firing
  startsAt := ⟨1705314600, 0⟩
  resolvedAt := none
  acknowledgedAt := none
  resolutionReason := none
  value := none
  metrics := .object []
  labels := Dict.empty.insert "link" "\x7b\x7bid\x7d\x7d"
  annotations := Dict.empty
  source := "db"
  anomalyDetails := none
  explanation := none

def linkLayout : Layout := ⟨[⟨[], " labels.link ".toList⟩], "\x7d \x7b\x7bvalue".toList⟩

theorem isPlain_linkLayout : linkLayout.IsPlain := by
  refine ⟨?_, ?_, fun before inside same closed => ?_⟩
  · exact List.forall_mem_singleton.mpr isClear_nil
  · exact List.forall_mem_singleton.mpr ⟨by simp [doubled_infix_cons], by simp⟩
  · have hRest : inside <:+: linkLayout.rest := ⟨before ++ ['\x7b', '\x7b'], [], by simp [same]⟩
    exact absurd (closed.trans hRest) (by simp [linkLayout, doubled_infix_cons])

/-- The braces of the label are no placeholder, and neither is what is left open. -/
theorem exists_layout_render_brokenLink :
    let template := "\x7b\x7b labels.link \x7d\x7d\x7d \x7b\x7bvalue"
    linkLayout.IsPlain ∧ linkLayout.chars = template.toList ∧
      render template brokenLink = "\x7b\x7bid\x7d\x7d\x7d \x7b\x7bvalue" := by
  intro template
  have hChars : linkLayout.chars = template.toList := by
    simp [linkLayout, Layout.chars, template]
  obtain ⟨layout, -, unique, renders⟩ := exists_layout_render template
  obtain rfl := unique linkLayout isPlain_linkLayout hChars
  obtain ⟨value, fills, hRender⟩ := renders brokenLink
  have hLink : value " labels.link ".toList = "\x7b\x7bid\x7d\x7d" := by
    refine (fills _ _).mpr (.inl ?_)
    have hTrim : String.ofList (Text.trim " labels.link ".toList) = "labels." ++ "link" := by decide
    rw [hTrim]
    exact .label rfl
  refine ⟨isPlain_linkLayout, hChars, ?_⟩
  rw [hRender, Layout.filled, linkLayout, List.flatMap_singleton, hLink]
  decide

def valueLayout : Layout := ⟨[⟨[], "value".toList⟩], []⟩

/-- A value that is absent does not leave its place empty. -/
theorem render_value_of_none :
    brokenLink.value = none ∧ render "\x7b\x7bvalue\x7d\x7d" brokenLink = "n/a" ∧
      render "\x7b\x7bvalue\x7d\x7d" brokenLink ≠ "" := by
  have plain : valueLayout.IsPlain := by
    refine ⟨?_, ?_, fun before inside same => ?_⟩
    · exact List.forall_mem_singleton.mpr isClear_nil
    · exact List.forall_mem_singleton.mpr ⟨by simp [doubled_infix_cons], by simp⟩
    · exact absurd same (by simp [valueLayout])
  have hChars : "\x7b\x7bvalue\x7d\x7d".toList = valueLayout.chars := by rfl
  have hRender : render "\x7b\x7bvalue\x7d\x7d" brokenLink = "n/a" := by
    rw [render, hChars, pieces_chars plain]
    decide
  exact ⟨rfl, hRender, by rw [hRender]; decide⟩

end MetricAlerts.Template
