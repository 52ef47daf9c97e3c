import Carros.Entity.Carro

/-!
# The two decoders of a car

`Carro.fromMap` and `Carro.fromJson` side by side, on the JSON objects that describe a car
(`ObjetoCarro`) and on what the encoders `toMap` and `toJson` leave.  `fromMap` decodes every such
object to a car (`ObjetoCarro.exists_fromMap`) and inverts both encoders; `fromJson` gives the same
car without the five fields it does not read, so `decoders_iff` settles when the two agree and when
both invert the encoders.
-/

namespace Carros

open Dart

namespace Carro

/-- A JSON object whose `id` is an integer, `null` or absent and whose other keys of a car hold
strings, `null` or nothing. -/
structure ObjetoCarro (m : DynMap) : Prop where
  id : ∃ n, m.get "id" = .ofInt n
  textos : ∀ k ∈ ["nome", "tipo", "descricao", "urlFoto", "urlVideo", "latitude", "longitude"],
    ∃ s, m.get k = .ofString s

/-- Both decoders accept the object, with the same car. -/
def Concordam (m : DynMap) : Prop := ∃ c, fromJson m = .ok c ∧ fromMap m = .ok c

/-- Both decoders give the car back from its map and from the object its text is decoded to. -/
def Invertem (c : Carro) : Prop :=
  (fromJson c.toMap = .ok c ∧ fromMap c.toMap = .ok c) ∧
    ∃ m, jsonDecode c.toJson = some (.map m) ∧ fromJson m = .ok c ∧ fromMap m = .ok c

/-- The keys `fromJson` does not read hold `null`, or are absent. -/
def SoTresChaves (m : DynMap) : Prop :=
  ∀ k ∈ ["id", "tipo", "urlVideo", "latitude", "longitude"], m.get k = .null

/-- The fields `fromJson` does not fill are `null`. -/
def SoTresCampos (c : Carro) : Prop :=
  c.id = none ∧ c.tipo = none ∧ c.urlVideo = none ∧ c.latitude = none ∧ c.longitude = none

/-- `fromMap` decodes every object that describes a car. -/
lemma ObjetoCarro.exists_fromMap {m : DynMap} (h : ObjetoCarro m) : ∃ c, fromMap m = .ok c := by
  obtain ⟨id, hid⟩ := h.id
  obtain ⟨nome, hnome⟩ := h.textos "nome" (by decide)
  obtain ⟨tipo, htipo⟩ := h.textos "tipo" (by decide)
  obtain ⟨descricao, hdescricao⟩ := h.textos "descricao" (by decide)
  obtain ⟨urlFoto, hfoto⟩ := h.textos "urlFoto" (by decide)
  obtain ⟨urlVideo, hvideo⟩ := h.textos "urlVideo" (by decide)
  obtain ⟨latitude, hlat⟩ := h.textos "latitude" (by decide)
  obtain ⟨longitude, hlng⟩ := h.textos "longitude" (by decide)
  exact ⟨⟨id, nome, tipo, descricao, urlFoto, urlVideo, latitude, longitude⟩,
    fromMap_eq_ok.mpr ⟨⟨hid, hnome⟩, ⟨htipo, hdescricao⟩, ⟨hfoto, hvideo⟩, hlat, hlng⟩⟩

/-- Dropping five fields changes nothing exactly if they are `null`. -/
lemma semId_eq_iff (c : Carro) : c.semId = c ↔ c.SoTresCampos := by
  obtain ⟨id, nome, tipo, descricao, urlFoto, urlVideo, latitude, longitude⟩ := c
  simp [semId, SoTresCampos, eq_comm]

/-- The fields of the decoded car are `null` exactly if the keys hold `null`. -/
lemma soTresChaves_iff {m : DynMap} {c : Carro} (h : fromMap m = .ok c) :
    SoTresChaves m ↔ c.SoTresCampos := by
  obtain ⟨⟨hid, -⟩, ⟨htipo, -⟩, ⟨-, hvideo⟩, hlat, hlng⟩ := fromMap_eq_ok.mp h
  simp [SoTresChaves, SoTresCampos, hid, htipo, hvideo, hlat, hlng, Dyn.ofInt_eq_null,
    Dyn.ofString_eq_null]

/-- Both decoders give a car exactly if it is the one `fromMap` gives and has no other fields than
`fromJson` fills. -/
lemma ambos_iff {m : DynMap} {c d : Carro} (h : fromMap m = .ok d) :
    fromJson m = .ok c ∧ fromMap m = .ok c ↔ c = d ∧ d.SoTresCampos := by
  rw [fromJson_of_fromMap h, h, ← semId_eq_iff, Except.ok.injEq, Except.ok.injEq]
  constructor
  · rintro ⟨hjson, rfl⟩
    exact ⟨rfl, hjson⟩
  · rintro ⟨rfl, hsem⟩
    exact ⟨hsem, rfl⟩

end Carro

open Carro in
/-- **The decoders agree and invert the encoder** exactly where the five keys `fromJson` does not
read hold nothing: on an object that describes a car both decoders give the same car if and only if
it has none of these keys, and both give a car back from its map and from its text if and only if
its five fields are `null`. -/
theorem decoders_iff {m : DynMap} (hm : ObjetoCarro m) (c : Carro) :
    (Concordam m ↔ SoTresChaves m) ∧ (Invertem c ↔ c.SoTresCampos) := by
  refine ⟨?_, ?_⟩
  · obtain ⟨d, hd⟩ := hm.exists_fromMap
    rw [soTresChaves_iff hd]
    constructor
    · rintro ⟨c, hc⟩
      exact ((ambos_iff hd).mp hc).2
    · intro hcampos
      exact ⟨d, (ambos_iff hd).mpr ⟨rfl, hcampos⟩⟩
  · constructor
    · intro h
      exact ((ambos_iff c.fromMap_toMap).mp h.1).2
    · intro hcampos
      have hboth := (ambos_iff c.fromMap_toMap).mpr ⟨rfl, hcampos⟩
      exact ⟨hboth, c.toMap, jsonDecode_toJson (idInt64_of_id_eq_none hcampos.1), hboth⟩

/-- The map of a car of the server list. -/
theorem decoders_iff_fusca :
    let fusca : Carro := { id := some 1, nome := some "Fusca", tipo := some "classicos" }
    (Carro.Concordam fusca.toMap ↔ Carro.SoTresChaves fusca.toMap) ∧
      (fusca.Invertem ↔ fusca.SoTresCampos) := by
  intro fusca
  have hm : Carro.ObjetoCarro fusca.toMap :=
    ⟨⟨_, fusca.get_toMap.1.1⟩, by simp [fusca.get_toMap]⟩
  exact decoders_iff hm fusca

/-- The same car: the decoders disagree on its map, and `fromJson` loses its id and its tipo. -/
theorem decoders_iff_fails :
    let fusca : Carro := { id := some 1, nome := some "Fusca", tipo := some "classicos" }
    Carro.fromMap fusca.toMap = .ok fusca ∧
      Carro.fromJson fusca.toMap = .ok { nome := some "Fusca" } ∧
      ¬ Carro.Concordam fusca.toMap ∧ ¬ fusca.Invertem := by
  intro fusca
  have hjson : Carro.fromJson fusca.toMap = .ok { nome := some "Fusca" } := fusca.fromJson_toMap
  have hcampos : ¬ fusca.SoTresCampos := fun h => by cases h.1
  refine ⟨fusca.fromMap_toMap, hjson, ?_, ?_⟩
  · rintro ⟨c, hc⟩
    exact hcampos ((Carro.ambos_iff fusca.fromMap_toMap).mp hc).2
  · intro h
    exact hcampos ((Carro.ambos_iff fusca.fromMap_toMap).mp h.1).2

end Carros
