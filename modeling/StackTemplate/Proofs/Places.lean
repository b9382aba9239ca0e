import StackTemplate.Proofs.Writing

namespace StackTemplate

mutual

def Value.fractions : Value → List Binary64
  | .number (.float x) => [x]
  | .list vs => Value.itemFractions vs
  | .map vs => Value.entryFractions vs
  | .join _ vs => Value.itemFractions vs
  | .choose _ a b => a.fractions ++ b.fractions
  | .equals a b => a.fractions ++ b.fractions
  | .base64 v => v.fractions
  | _ => []

def Value.itemFractions : List Value → List Binary64
  | [] => []
  | v :: vs => v.fractions ++ Value.itemFractions vs

def Value.entryFractions : List (String × Value) → List Binary64
  | [] => []
  | (_, v) :: vs => v.fractions ++ Value.entryFractions vs

end

theorem Value.entryFractions_eq (vs : List (String × Value)) :
    Value.entryFractions vs = vs.flatMap fun entry => entry.2.fractions := by
  induction vs with
  | nil => rfl
  | cons entry vs ih => rw [Value.entryFractions, ih, List.flatMap_cons]

-- Places below a common piece of path.
def under (piece : String) (places : List (String × Binary64)) : List (String × Binary64) :=
  places.map fun place => (piece ++ place.1, place.2)

mutual

-- The fractions in a value, depth first and left to right, each with the path that leads to it.
def Value.places : Value → List (String × Binary64)
  | .number (.float x) => [("", x)]
  | .list vs => Value.itemPlaces 0 vs
  | .map vs => Value.entryPlaces vs
  | .join _ vs => under ".Fn::Join" (Value.itemPlaces 0 vs)
  | .choose _ a b => under ".Fn::If[1]" a.places ++ under ".Fn::If[2]" b.places
  | .equals a b => under ".Fn::Equals[0]" a.places ++ under ".Fn::Equals[1]" b.places
  | .base64 v => under ".Fn::Base64" v.places
  | _ => []

def Value.itemPlaces (index : Nat) : List Value → List (String × Binary64)
  | [] => []
  | v :: vs => under ("[" ++ toString index ++ "]") v.places ++ Value.itemPlaces (index + 1) vs

def Value.entryPlaces : List (String × Value) → List (String × Binary64)
  | [] => []
  | (key, v) :: vs => under ("." ++ key) v.places ++ Value.entryPlaces vs

end

namespace Path

theorem text_member (path : Path) (name : String) :
    (path.member name).text = path.text ++ ("." ++ name) := by
  simp [member, text, stepText, String.append_assoc]

theorem text_item (path : Path) (index : Nat) :
    (path.item index).text = path.text ++ ("[" ++ toString index ++ "]") := by
  have step : stepText (.item index) = "[" ++ toString index ++ "]" := rfl
  simp [item, text, step, String.append_assoc]

theorem text_call (path : Path) (function : String) (index : Nat) :
    ((path.member function).item index).text =
      path.text ++ ("." ++ function ++ "[" ++ toString index ++ "]") := by
  rw [text_item, text_member]
  simp only [String.append_assoc]

end Path

theorem under_append (piece : String) (front back : List (String × Binary64)) :
    under piece (front ++ back) = under piece front ++ under piece back := List.map_append

theorem under_under (outer inner : String) (places : List (String × Binary64)) :
    under outer (under inner places) = under (outer ++ inner) places := by
  simp [under, Function.comp_def, String.append_assoc]

theorem under_fractions (piece : String) (places : List (String × Binary64)) :
    (under piece places).map (·.2) = places.map (·.2) := by
  simp [under]

-- The text of the path that an error points at, with the number that is there.
def TemplateError.site? : TemplateError → Option (String × Binary64)
  | .nonFinite path x => some (path.text, x)
  | .noExpression _ => none

-- The errors are those of the places whose numbers are not finite, in the same order.
def Told (faults : List TemplateError) (places : List (String × Binary64)) : Prop :=
  faults.map TemplateError.site? = (places.filter fun place => !place.2.isFinite).map some

namespace Told

theorem nil : Told [] [] := rfl

theorem append {faults others : List TemplateError} {places more : List (String × Binary64)}
    (first : Told faults places) (second : Told others more) :
    Told (faults ++ others) (places ++ more) := by
  unfold Told at *
  rw [List.map_append, List.filter_append, List.map_append, first, second]

theorem flatMap {α : Type} {items : List α} {faults : α → List TemplateError}
    {places : α → List (String × Binary64)} (each : ∀ a ∈ items, Told (faults a) (places a)) :
    Told (items.flatMap faults) (items.flatMap places) := by
  induction items with
  | nil => exact nil
  | cons a rest ih =>
    obtain ⟨first, others⟩ := List.forall_mem_cons.mp each
    rw [List.flatMap_cons, List.flatMap_cons]
    exact first.append (ih others)

theorem clear {faults : List TemplateError} {places : List (String × Binary64)}
    (told : Told faults places) : faults = [] ↔ ∀ place ∈ places, place.2.isFinite = true := by
  rw [← List.map_eq_nil_iff, told, List.map_eq_nil_iff, List.filter_eq_nil_iff]
  simp

theorem first {faults : List TemplateError} {places : List (String × Binary64)} {e : TemplateError}
    (told : Told faults places) (head : faults.head? = some e) :
    ∃ before path x after, places = before ++ (path.text, x) :: after ∧
      (∀ place ∈ before, place.2.isFinite = true) ∧ x.isFinite = false ∧ e = .nonFinite path x := by
  have sites := congrArg List.head? told
  rw [List.head?_map, List.head?_map, head, List.head?_filter, Option.map_some] at sites
  obtain ⟨place, found, site⟩ := Option.map_eq_some_iff.mp sites.symm
  obtain ⟨wrong, before, after, split, finite⟩ := List.find?_eq_some_iff_append.mp found
  cases e with
  | noExpression path => cases site
  | nonFinite path x =>
    cases site
    exact ⟨before, path, x, after, split, by simpa using finite, by simpa using wrong, rfl⟩

end Told

namespace Value

mutual

theorem image_told (path : Path) : ∀ v : Value,
    Told (v.image.faults path) (under path.text v.places)
  | .string _ => .nil
  | .number (.int _) => .nil
  | .number (.float x) => by
    rw [image, places, ResolvedValue.faults]
    by_cases finite : x.isFinite = true
    · simp [Told, under, finite]
    · simp [Told, under, finite, TemplateError.site?]
  | .bool _ => .nil
  | .list vs => items_told path 0 vs
  | .map vs => entries_told path vs
  | .ref _ => .nil
  | .getAtt _ _ => .nil
  | .pseudo _ => .nil
  | .join separator vs => by
    have parts := items_told (path.member "Fn::Join") 0 vs
    rw [Path.text_member] at parts
    rw [places, under_under]
    exact parts
  | .choose condition a b => by
    have first := image_told ((path.member "Fn::If").item 1) a
    have second := image_told ((path.member "Fn::If").item 2) b
    rw [Path.text_call] at first second
    rw [places, under_append, under_under, under_under]
    exact first.append second
  | .equals a b => by
    have first := image_told ((path.member "Fn::Equals").item 0) a
    have second := image_told ((path.member "Fn::Equals").item 1) b
    rw [Path.text_call] at first second
    rw [places, under_append, under_under, under_under]
    exact first.append second
  | .base64 v => by
    have inner := image_told (path.member "Fn::Base64") v
    rw [Path.text_member] at inner
    rw [places, under_under]
    exact inner

theorem items_told (path : Path) (index : Nat) : ∀ vs : List Value,
    Told (ResolvedValue.itemFaults path index (itemImages vs))
      (under path.text (itemPlaces index vs))
  | [] => .nil
  | v :: vs => by
    have first := image_told (path.item index) v
    rw [Path.text_item] at first
    rw [itemPlaces, under_append, under_under]
    exact first.append (items_told path (index + 1) vs)

theorem entries_told (path : Path) : ∀ vs : List (String × Value),
    Told (ResolvedValue.memberFaults path (entryImages vs)) (under path.text (entryPlaces vs))
  | [] => .nil
  | (key, v) :: vs => by
    have first := image_told (path.member key) v
    rw [Path.text_member] at first
    rw [entryPlaces, under_append, under_under]
    exact first.append (entries_told path vs)

end

mutual

theorem places_fractions : ∀ v : Value, v.places.map (·.2) = v.fractions
  | .string _ => rfl
  | .number (.int _) => rfl
  | .number (.float _) => rfl
  | .bool _ => rfl
  | .list vs => itemPlaces_fractions 0 vs
  | .map vs => entryPlaces_fractions vs
  | .ref _ => rfl
  | .getAtt _ _ => rfl
  | .pseudo _ => rfl
  | .join _ vs => by
    rw [places, under_fractions, fractions, itemPlaces_fractions 0 vs]
  | .choose _ a b => by
    rw [places, fractions, List.map_append, under_fractions, under_fractions, places_fractions a,
      places_fractions b]
  | .equals a b => by
    rw [places, fractions, List.map_append, under_fractions, under_fractions, places_fractions a,
      places_fractions b]
  | .base64 v => by
    rw [places, under_fractions, fractions, places_fractions v]

theorem itemPlaces_fractions (index : Nat) : ∀ vs : List Value,
    (itemPlaces index vs).map (·.2) = itemFractions vs
  | [] => rfl
  | v :: vs => by
    rw [itemPlaces, itemFractions, List.map_append, under_fractions, places_fractions v,
      itemPlaces_fractions (index + 1) vs]

theorem entryPlaces_fractions : ∀ vs : List (String × Value),
    (entryPlaces vs).map (·.2) = entryFractions vs
  | [] => rfl
  | (key, v) :: vs => by
    rw [entryPlaces, entryFractions, List.map_append, under_fractions, places_fractions v,
      entryPlaces_fractions vs]

end

theorem image_faults (path : Path) {v : Value} (finite : ∀ x ∈ v.fractions, x.isFinite = true) :
    v.image.faults path = [] := by
  refine (image_told path v).clear.mpr fun place member => finite place.2 ?_
  rw [← places_fractions v, ← under_fractions path.text]
  exact List.mem_map_of_mem member

theorem entries_faults (path : Path) {vs : List (String × Value)}
    (finite : ∀ x ∈ entryFractions vs, x.isFinite = true) :
    ResolvedValue.memberFaults path (entryImages vs) = [] := by
  refine (entries_told path vs).clear.mpr fun place member => finite place.2 ?_
  rw [← entryPlaces_fractions vs, ← under_fractions path.text]
  exact List.mem_map_of_mem member

end Value

theorem Value.find?_entryImages (vs : List (String × Value)) (key : String) :
    Entries.find? (entryImages vs) key = (Entries.find? vs key).map image := by
  induction vs with
  | nil => rfl
  | cons entry vs ih =>
    obtain ⟨k, v⟩ := entry
    rw [entryImages, Entries.find?, Entries.find?, ih]
    split <;> rfl

theorem Value.fractions_found {vs : List (String × Value)} {key : String} {v : Value}
    (found : Entries.find? vs key = some v) : v.fractions ⊆ entryFractions vs := by
  induction vs with
  | nil => cases found
  | cons entry vs ih =>
    obtain ⟨k, first⟩ := entry
    rw [Entries.find?] at found
    rw [entryFractions]
    split at found
    · cases found
      exact List.subset_append_left _ _
    · exact List.subset_append_of_subset_right _ (ih found)

namespace Declaration

def fractions (d : Declaration) : List Binary64 :=
  Value.entryFractions d.attributes ++ (d.updatePolicy.map Value.fractions).getD []

structure Writable (d : Declaration) : Prop where
  finite : ∀ x ∈ d.fractions, x.isFinite = true
  expressed : d.sec = .condition → (d.attribute? expressionKey).isSome = true

instance (d : Declaration) : Decidable d.Writable :=
  decidable_of_iff ((∀ x ∈ d.fractions, x.isFinite = true) ∧
      (d.sec = .condition → (d.attribute? expressionKey).isSome = true))
    ⟨fun h => ⟨h.1, h.2⟩, fun h => ⟨h.1, h.2⟩⟩

theorem image_faults (doc : Document) {d : Declaration} (writable : d.Writable) :
    (d.image doc).faults = [] := by
  obtain ⟨attributes, policy⟩ := List.forall_mem_append.mp writable.finite
  have members (path : Path) : ResolvedValue.memberFaults path (d.image doc).attributes = [] :=
    Value.entries_faults path attributes
  have sec : (d.image doc).sec = d.sec := rfl
  rw [ResolvedDeclaration.faults, sec]
  cases given : d.sec with
  | parameter => exact members (d.image doc).place
  | condition =>
    obtain ⟨expression, written⟩ := Option.isSome_iff_exists.mp (writable.expressed given)
    have found : (d.image doc).expression? = some expression.image := by
      rw [ResolvedDeclaration.expression?, image, Value.find?_entryImages]
      exact congrArg (Option.map Value.image) written
    have finite : ∀ x ∈ expression.fractions, x.isFinite = true :=
      fun x member => attributes x (Value.fractions_found written member)
    simp only [found]
    exact Value.image_faults (d.image doc).place finite
  | resource =>
    have policyFaults : (d.image doc).policyFaults = [] := by
      unfold ResolvedDeclaration.policyFaults
      cases given : d.updatePolicy with
      | none => simp [image, given]
      | some v =>
        rw [given] at policy
        simpa [image, given] using Value.image_faults _ policy
    dsimp only
    rw [policyFaults, members, List.nil_append]
  | output => exact members (d.image doc).place

end Declaration

namespace Document

-- A document whose declarations can all be written is assembled as soon as it resolves.
theorem assemble_eq {doc : Document} (options : AssemblyOptions)
    (writable : ∀ d ∈ doc.declarations, d.Writable) {advisories : List Advisory}
    (resolves : doc.resolve options.lint = .ok (doc.image advisories)) :
    doc.assemble options =
      .ok ⟨((doc.image advisories).json options.template).text options.template.pretty,
        advisories⟩ := by
  have clean : (doc.image advisories).faults Section.all = [] := by
    simp only [ResolvedDocument.faults, List.flatMap_eq_nil_iff]
    intro sec _ d member
    obtain ⟨given, declared, rfl⟩ := List.mem_map.mp (List.mem_of_mem_filter member)
    exact Declaration.image_faults doc (writable given declared)
  rw [assemble, resolves]
  simp only [Except.mapError, ok_bind, ResolvedDocument.template_eq, clean, List.head?_nil,
    settle_none]
  rfl

end Document

end StackTemplate
