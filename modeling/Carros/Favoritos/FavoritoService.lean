import Carros.Entity.Carro
import Mathlib.Data.List.Sort

/-!
# The favourites of the Firestore

`toList`, `favoritar2` and `isFavorito2` of `pages/favoritos/favorito_service.dart` over the
collection `carros`.  A document is addressed by the interpolated id of a car; `favoritar2` reads
whether it exists and then writes or deletes it, so it is split at its `await`: `decidir` is what
follows the read.
-/

namespace Carros

open Dart

/-- The collection `carros`: its documents by their ids. -/
abbrev Colecao := AList fun _ : String => DynMap

/-- A write to a document. -/
inductive DocWrite where
  | setData (data : DynMap)
  | delete

namespace Colecao

/-- The collection after a write to a document. -/
def apply (col : Colecao) (doc : String) : DocWrite → Colecao
  | .setData data => col.insert doc data
  | .delete => col.erase doc

/-- The documents of a snapshot, in the order of their ids. -/
def snapshot (col : Colecao) : List (Σ _ : String, DynMap) :=
  col.entries.insertionSort fun a b => a.1 ≤ b.1

end Colecao

namespace FavoritoService

/-- The id of the document of a car. -/
def document (c : Carro) : String := interpolate c.id

/-- `isFavorito2`. -/
def isFavorito2 (col : Colecao) (c : Carro) : Bool := (col.lookup (document c)).isSome

/-- `favoritar2` after its read: what it returns, and the write it starts. -/
def decidir (existe : Bool) (c : Carro) : Bool × DocWrite :=
  if !existe then (true, .setData c.toMap) else (false, .delete)

/-- `favoritar2` with its write applied before anything else happens. -/
def favoritar2 (col : Colecao) (c : Carro) : Bool × Colecao :=
  let (status, write) := decidir (isFavorito2 col c) c
  (status, col.apply (document c) write)

/-- `toList` of a snapshot of the collection. -/
def toList (col : Colecao) : Except DartError (List Carro) :=
  col.snapshot.mapM fun d => Carro.fromJson d.2

end FavoritoService

end Carros
