import Carros.Base.JsonRoundTrip

/-!
# Cars

The class `Carro` of `pages/carros/carro.dart` with its two decoders and its encoder.  `fromMap`
reads all eight keys; `fromJson` reads `nome`, `descricao` and `urlFoto` only, the lines for the
other five keys being commented out in the source.  Both are also given by what they return on the
map of a car: `fromMap_toMap` and `fromJson_toMap`.
-/

namespace Carros

open Dart

/-- The class `Carro`: a car as the app holds it, every field nullable. -/
structure Carro where
  id : Option Int := none
  nome : Option String := none
  tipo : Option String := none
  descricao : Option String := none
  urlFoto : Option String := none
  urlVideo : Option String := none
  latitude : Option String := none
  longitude : Option String := none
  deriving DecidableEq, Repr

namespace Carro

/-- `Carro.fromJson`, the decoder of the server list and of the Firestore documents. -/
def fromJson (json : DynMap) : Except DartError Carro := do
  let nome ← (json.get "nome").asString
  let descricao ← (json.get "descricao").asString
  let urlFoto ← (json.get "urlFoto").asString
  return { nome, descricao, urlFoto }

/-- `Carro.fromMap`, the decoder of the database rows and of the answer to a save. -/
def fromMap (map : DynMap) : Except DartError Carro := do
  let id ← (map.get "id").asInt
  let nome ← (map.get "nome").asString
  let tipo ← (map.get "tipo").asString
  let descricao ← (map.get "descricao").asString
  let urlFoto ← (map.get "urlFoto").asString
  let urlVideo ← (map.get "urlVideo").asString
  let latitude ← (map.get "latitude").asString
  let longitude ← (map.get "longitude").asString
  return { id, nome, tipo, descricao, urlFoto, urlVideo, latitude, longitude }

/-- `Carro.toMap`: the key `id` is there only if the car has one. -/
def toMap (c : Carro) : DynMap :=
  [("nome", .ofString c.nome), ("tipo", .ofString c.tipo), ("descricao", .ofString c.descricao),
    ("urlFoto", .ofString c.urlFoto), ("urlVideo", .ofString c.urlVideo),
    ("latitude", .ofString c.latitude), ("longitude", .ofString c.longitude)] ++
    (c.id.map fun i => ("id", .int i)).toList

/-- `Carro.toJson`. -/
def toJson (c : Carro) : String := jsonEncode (.map c.toMap)

/-- What `fromJson` keeps of a car. -/
def semId (c : Carro) : Carro := { nome := c.nome, descricao := c.descricao, urlFoto := c.urlFoto }

/-- Looking up a key of the map of a car. -/
lemma get_toMap (c : Carro) :
    (c.toMap.get "id" = .ofInt c.id ∧ c.toMap.get "nome" = .ofString c.nome) ∧
      (c.toMap.get "tipo" = .ofString c.tipo ∧ c.toMap.get "descricao" = .ofString c.descricao) ∧
      (c.toMap.get "urlFoto" = .ofString c.urlFoto ∧
        c.toMap.get "urlVideo" = .ofString c.urlVideo) ∧
      c.toMap.get "latitude" = .ofString c.latitude ∧
      c.toMap.get "longitude" = .ofString c.longitude := by
  cases h : c.id <;> simp [toMap, h, DynMap.get, List.lookup_cons, Dyn.ofInt]

/-- `fromMap` decodes a map to the car whose fields stand under the eight keys. -/
lemma fromMap_eq_ok {map : DynMap} {c : Carro} :
    fromMap map = .ok c ↔
      (map.get "id" = .ofInt c.id ∧ map.get "nome" = .ofString c.nome) ∧
      (map.get "tipo" = .ofString c.tipo ∧ map.get "descricao" = .ofString c.descricao) ∧
      (map.get "urlFoto" = .ofString c.urlFoto ∧ map.get "urlVideo" = .ofString c.urlVideo) ∧
      map.get "latitude" = .ofString c.latitude ∧
      map.get "longitude" = .ofString c.longitude := by
  constructor
  · intro h
    obtain ⟨id, hid, h⟩ := bind_eq_ok.mp h
    obtain ⟨nome, hnome, h⟩ := bind_eq_ok.mp h
    obtain ⟨tipo, htipo, h⟩ := bind_eq_ok.mp h
    obtain ⟨descricao, hdescricao, h⟩ := bind_eq_ok.mp h
    obtain ⟨urlFoto, hfoto, h⟩ := bind_eq_ok.mp h
    obtain ⟨urlVideo, hvideo, h⟩ := bind_eq_ok.mp h
    obtain ⟨latitude, hlat, h⟩ := bind_eq_ok.mp h
    obtain ⟨longitude, hlng, h⟩ := bind_eq_ok.mp h
    obtain rfl := Except.ok.inj h
    rw [Dyn.asInt_eq_ok] at hid
    rw [Dyn.asString_eq_ok] at hnome htipo hdescricao hfoto hvideo hlat hlng
    exact ⟨⟨hid, hnome⟩, ⟨htipo, hdescricao⟩, ⟨hfoto, hvideo⟩, hlat, hlng⟩
  · rintro ⟨⟨h₁, h₂⟩, ⟨h₃, h₄⟩, ⟨h₅, h₆⟩, h₇, h₈⟩
    simp [fromMap, h₁, h₂, h₃, h₄, h₅, h₆, h₇, h₈]

/-- `fromMap` inverts `toMap`. -/
@[simp] theorem fromMap_toMap (c : Carro) : fromMap c.toMap = .ok c :=
  fromMap_eq_ok.mpr c.get_toMap

/-- `fromJson` decodes whatever `fromMap` decodes, and keeps three fields of it. -/
lemma fromJson_of_fromMap {map : DynMap} {c : Carro} (h : fromMap map = .ok c) :
    fromJson map = .ok c.semId := by
  obtain ⟨⟨-, hnome⟩, ⟨-, hdescricao⟩, ⟨hfoto, -⟩, -⟩ := fromMap_eq_ok.mp h
  simp [fromJson, hnome, hdescricao, hfoto, semId]

/-- `fromJson` keeps three of the eight fields. -/
@[simp] theorem fromJson_toMap (c : Carro) : fromJson c.toMap = .ok c.semId :=
  fromJson_of_fromMap c.fromMap_toMap

/-- The id of a car is one an `int` holds. -/
def IdInt64 (c : Carro) : Prop := ∀ i, c.id = some i → IsInt64 i

instance (c : Carro) : Decidable c.IdInt64 :=
  inferInstanceAs (Decidable (∀ i ∈ c.id, IsInt64 i))

/-- A car without an id has no other. -/
lemma idInt64_of_id_eq_none {c : Carro} (h : c.id = none) : c.IdInt64 := by
  intro i hi
  rw [h] at hi
  cases hi

/-- What `fromJson` reads of a map does not change when the map is read back. -/
@[simp] lemma fromJson_rereadEntries (m : DynMap) : fromJson (rereadEntries m) = fromJson m := by
  simp only [fromJson, get_rereadEntries, Dyn.asString_reread]

/-- The map of a car whose id is an `int` is read back as it was. -/
lemma rereadEntries_toMap {c : Carro} (h : c.IdInt64) : rereadEntries c.toMap = c.toMap := by
  cases hid : c.id with
  | none => simp [toMap, hid, rereadEntries]
  | some i => simp [toMap, hid, rereadEntries, Dyn.reread, Dyn.ofLiteral, h i hid]

/-- The decoder throws on the map of any other car, once it is read back. -/
lemma fromMap_rereadEntries_of_not_idInt64 {c : Carro} (h : ¬ c.IdInt64) :
    fromMap (rereadEntries c.toMap) = .error .typeError := by
  cases hid : c.id with
  | none => exact absurd (idInt64_of_id_eq_none hid) h
  | some i =>
    have hi : ¬ IsInt64 i := fun hi => h fun j hj => by
      rw [hid] at hj
      exact Option.some.inj hj ▸ hi
    have hget : DynMap.get (rereadEntries c.toMap) "id" = .double i 0 := by
      rw [get_rereadEntries, c.get_toMap.1.1, hid]
      exact if_neg hi
    rw [fromMap, hget]
    rfl

/-- The text of a car reads as its map, if its id is an `int`. -/
lemma jsonDecode_toJson {c : Carro} (h : c.IdInt64) :
    jsonDecode c.toJson = some (.map c.toMap) := by
  rw [toJson, jsonDecode_jsonEncode, Dyn.reread_map, rereadEntries_toMap h]

/-- The text of a list of such cars reads as their maps. -/
lemma jsonDecode_list_toMap {L : List Carro} (h : ∀ c ∈ L, c.IdInt64) :
    jsonDecode (jsonEncode (.list (L.map fun c => .map c.toMap))) =
      some (.list ((L.map toMap).map .map)) := by
  rw [jsonDecode_jsonEncode, Dyn.reread_list, rereadList_eq_map, List.map_map, List.map_map]
  congr 2
  refine List.map_congr_left fun c hc => ?_
  rw [Function.comp_apply, Dyn.reread_map, rereadEntries_toMap (h c hc), Function.comp_apply]

end Carro

/-- A car as the app can hold it: its id is an `int`. -/
abbrev CarroApp := { c : Carro // c.IdInt64 }

end Carros
