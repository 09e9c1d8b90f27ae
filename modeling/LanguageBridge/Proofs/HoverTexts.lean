import LanguageBridge.Capability
import LanguageBridge.Proofs.Arrangement

/-! Hover texts sent as an array. An array of two plain texts is also a kind and a value, and is taken
for these; every other array is shown item by item. -/
namespace LanguageBridge

namespace Wire

theorem Markup.read_arr {items : List Json} {m : Markup} :
    read (.arr items) = .ok m ↔ items = [.str m.kind,.str m.value] := by
  obtain ⟨kind,value⟩ := m
  rw [read,Reads.record_arr]
  rcases items with _ | ⟨_,_ | ⟨_,rest⟩⟩ <;> simp [fields]

namespace MarkedString

/-- Only a text is read as a plain text. -/
theorem read_text {j : Json} {s : String} : read j = .ok (text s) ↔ j = .str s := by
  cases j with
  | obj members => simp [read,Reads.named,codeFields]
  | _ => simp [read,Reads.named,Reads.Refuses]

/-- Values that are read as marked strings are two texts exactly when the marked strings are. -/
theorem texts_iff {js : List Json} {items : List MarkedString} (each : js.map read = items.map .ok)
    (a b : String) : items = [text a,text b] ↔ js = [.str a,.str b] := by
  constructor
  · rintro rfl
    rcases js with _ | ⟨_,_ | ⟨_,_ | ⟨_,_⟩⟩⟩ <;> simp_all [read_text]
  · rintro rfl
    have first : read (.str a) = .ok (text a) := read_text.mpr rfl
    have second : read (.str b) = .ok (text b) := read_text.mpr rfl
    rcases items with _ | ⟨_,_ | ⟨_,_ | ⟨_,_⟩⟩⟩ <;> simp_all

/-- What there is to show of marked strings: all of them in order, but for empty texts. -/
def rendered (items : List MarkedString) : List Editor.Markdown :=
  ((items.map markdown).filter (· ≠ "")).map .mk

end MarkedString

open MarkedString

theorem HoverContents.read_pair (a b : String) :
    read (.arr [.str a,.str b]) = .ok (.markup ⟨a,b⟩) := by
  have pair : Markup.read (.arr [.str a,.str b]) = .ok ⟨a,b⟩ := Markup.read_arr.mpr rfl
  simp [read,pair]

theorem HoverContents.read_items {js : List Json} {items : List MarkedString}
    (each : js.map MarkedString.read = items.map .ok) (other : ∀ a b, items ≠ [text a,text b]) :
    read (.arr js) = .ok (.list items) := by
  have unmarked : Reads.Refuses Markup.read (.arr js) := by
    intro m pair
    exact other m.kind m.value ((texts_iff each _ _).mpr (Markup.read_arr.mp pair))
  have own : Reads.list MarkedString.read (.arr js) = .ok items := Reads.mapM_ok.mpr each
  simp [read,unmarked,own]

structure Hover.Carries (v : Json) (js : List Json) (range : Option Range) : Prop where
  shape : v.isRecord 2
  contents : v.part? 0 "contents" = some (.arr js)
  range : Reads.nullable Range.read ((v.part? 1 "range").getD .null) = .ok range
  full : ∀ items, v = .arr items → items.length = 2

theorem Hover.Carries.read {v : Json} {js : List Json} {range : Option Range} {c : HoverContents}
    (carries : Carries v js range) (own : HoverContents.read (.arr js) = .ok c) :
    Hover.read v = .ok ⟨c,range⟩ := by
  obtain ⟨shape,contents,range,full⟩ := carries
  cases v with
  | obj members =>
    simp only [Json.part?] at contents range
    simp [Hover.read,Reads.record,fields,contents,own,range]
  | arr items =>
    rw [Hover.read,Reads.record_arr]
    have two := full items rfl
    rcases items with _ | ⟨_,_ | ⟨_,_ | ⟨_,_⟩⟩⟩ <;> simp_all [fields,Json.part?]
  | _ => cases shape

theorem Hover.toEditor_eq (h : Hover) : h.toEditor =
    ⟨(h.contents.markdown.filter (· ≠ "")).map .mk,h.range.map Range.toEditor⟩ := by
  have same : (fun s : String => !s.isEmpty) = fun s => decide (s ≠ "") := by
    funext s
    rw [Bool.eq_iff_iff]
    simp
  rw [toEditor,same]

theorem MarkedString.rendered_pair (a b : String) :
    rendered [text b] = rendered [text a,text b] ↔ a = "" := by
  by_cases empty : a = ""
  · simp [rendered,markdown,empty]
  · simp [rendered,markdown,empty]

end Wire

open Wire MarkedString

/-- The hover capability shows all of an array, except that of two plain texts it shows only the second. -/
theorem Query.hover_complete_iff (d : Editor.Document) (p : Editor.Position) {v : Json} {js : List Json}
    {range : Option Wire.Range} {items : List MarkedString} (carries : Hover.Carries v js range)
    (each : js.map MarkedString.read = items.map .ok) :
    ∃ shown, Query.conclude (.hover d p) (.ok v) =
        .ok (.hover (some ⟨shown,range.map Wire.Range.toEditor⟩)) ∧
      (shown = rendered items ↔ ∀ a b, items = [.text a,.text b] → a = "") ∧
      ∀ a b, items = [.text a,.text b] → shown = rendered [.text b] := by
  have answered : ∀ c, HoverContents.read (.arr js) = .ok c →
      Query.conclude (.hover d p) (.ok v) = .ok (.hover (some
        ⟨(c.markdown.filter (· ≠ "")).map .mk,range.map Wire.Range.toEditor⟩)) := by
    intro c own
    have solid : v ≠ .null := by
      rintro rfl
      cases carries.shape
    simp [conclude,answer,readResult,Reads.nullable_of_ne solid,carries.read own,Except.map,
      Hover.toEditor_eq]
  -- only two plain texts can also be a kind and a value
  by_cases pair : ∃ a b, items = [.text a,.text b]
  · obtain ⟨a,b,rfl⟩ := pair
    obtain rfl := (texts_iff each a b).mp rfl
    refine ⟨rendered [.text b],answered _ (HoverContents.read_pair a b),?_,?_⟩
    · rw [rendered_pair]
      constructor
      · rintro empty _ _ ⟨⟩
        exact empty
      · exact fun empty => empty a b rfl
    · rintro _ _ ⟨⟩
      rfl
  · simp only [not_exists] at pair
    refine ⟨rendered items,answered _ (HoverContents.read_items each pair),?_,?_⟩
    · exact iff_of_true rfl fun a b two => absurd two (pair a b)
    · exact fun a b two => absurd two (pair a b)

/-- A hover result as an array, with an empty text, code, a text and empty code. -/
def Wire.Hover.mixed : Json :=
  .arr [.arr [.str "",.obj [("language",.str "lean"),("value",.str "x")],.str "note",
    .obj [("language",.str ""),("value",.str "")]],
    .arr [.arr [.ofNat 0,.ofNat 1],.arr [.ofNat 2,.ofNat 3]]]

theorem Query.mixed_complete : ∃ shown,
    Query.conclude (.hover ⟨1,"file:///a"⟩ ⟨1,1⟩) (.ok Hover.mixed) =
      .ok (.hover (some ⟨shown,some ⟨1,2,3,4⟩⟩)) ∧
    shown = [⟨"```lean\nx\n```"⟩,⟨"note"⟩,⟨"```\n\n```"⟩] := by
  let js : List Json := [.str "",.obj [("language",.str "lean"),("value",.str "x")],.str "note",
    .obj [("language",.str ""),("value",.str "")]]
  have carries : Hover.Carries Hover.mixed js (some ⟨⟨0,1⟩,⟨2,3⟩⟩) := by
    refine ⟨rfl,rfl,rfl,?_⟩
    rintro _ ⟨⟩
    rfl
  have each : js.map MarkedString.read =
      [MarkedString.text "",.code "lean" "x",.text "note",.code "" ""].map .ok := rfl
  obtain ⟨shown,answered,complete,_⟩ := hover_complete_iff ⟨1,"file:///a"⟩ ⟨1,1⟩ carries each
  exact ⟨shown,answered,complete.mpr (by simp)⟩

/-- The first of two plain texts is not shown. -/
theorem Query.hover_pair_cut :
    Query.conclude (.hover ⟨1,"file:///a"⟩ ⟨1,1⟩)
      (.ok (.obj [("contents",.arr [.str "a",.str "b"])])) = .ok (.hover (some ⟨[⟨"b"⟩],none⟩)) ∧
    rendered [.text "a",.text "b"] = [⟨"a"⟩,⟨"b"⟩] :=
  ⟨rfl,by decide⟩

end LanguageBridge
