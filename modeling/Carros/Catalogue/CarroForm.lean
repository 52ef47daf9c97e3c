import Carros.Catalogue.Server

/-!
# Saving and deleting from the pages

The handlers `_onClickSalvar` of `pages/carros/carro-form-page.dart` and `_deletar` of
`pages/carros/carro_page.dart`, up to the event they send on the `EventBus`.

The form writes its fields into the very object it was opened with, so the handlers return the car
as they leave it; whoever holds the object sees that car.
-/

namespace Carros

open Dart

variable {σ : Type}

/-- `CarroEvent`. -/
structure CarroEvent where
  acao : String
  tipo : Option String
  deriving DecidableEq, Repr

/-- The state of the form when `Salvar` is tapped. -/
structure Formulario where
  nome : String
  descricao : String
  radioIndex : Int
  file : Option Foto

namespace CarroFormPage

/-- `_validateNome`. -/
def validateNome (value : String) : Option String :=
  if value.isEmpty then some "Informe o nome do carro." else none

/-- `_getTipo`. -/
def getTipo (radioIndex : Int) : String :=
  if radioIndex = 0 then "classicos"
  else if radioIndex = 1 then "esportivos"
  else "luxo"

/-- The car the form saves: the one it was opened with or a new one, with the three fields of the
form written into it. -/
def preencher (carro : Option Carro) (form : Formulario) : Carro :=
  { carro.getD {} with
    nome := some form.nome
    descricao := some form.descricao
    tipo := some (getTipo form.radioIndex) }

/-- What `_onClickSalvar` leaves behind. -/
structure Saida (σ : Type) where
  response : ApiResponse Bool
  carro : Carro
  evento : Option CarroEvent
  world : σ

/-- `_onClickSalvar`; `none` if the form does not validate. -/
def onClickSalvar (transport : Transport σ) (stored : Option String) (carro : Option Carro)
    (form : Formulario) (w : σ) : Option (Saida σ) :=
  if (validateNome form.nome).isSome then none
  else
    let (response, c, w') :=
      CarrosApi.save transport stored (preencher carro form) form.file w
    some ⟨response, c, if response.ok then some ⟨"Carro Salvado", c.tipo⟩ else none, w'⟩

end CarroFormPage

namespace CarroPage

/-- `_deletar`, with the dialog that follows a success confirmed. -/
def deletar (transport : Transport σ) (stored : Option String) (carro : Carro) (w : σ) :
    ApiResponse Bool × Option CarroEvent × σ :=
  let (response, w') := CarrosApi.delete transport stored carro w
  (response, if response.ok then some ⟨"Carro Deletado", carro.tipo⟩ else none, w')

end CarroPage

end Carros
