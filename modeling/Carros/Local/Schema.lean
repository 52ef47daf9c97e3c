import Carros.Base.Dyn
import Carros.Base.SplitJoin

/-!
# The schema script

`DatabaseHelper._onCreate` of `utils/sql/db_helper.dart`: the script of `assets/sql/create.sql` is
split at its semicolons, and the parts that are not blank are executed one after the other, each
after the one before it has completed.

The database is whatever `execute` works on.  `Roteiro` says that a text is a script of given
statements, however they are laid out; `onCreate_roteiro` proves that the statements, and nothing
else, are executed in order up to the first one that fails.
-/

namespace Dart

/-- The characters `trim` removes: the white space of Unicode, and the byte order mark. -/
def isTrimmed (c : Char) : Bool :=
  (0x09 ≤ c.toNat && c.toNat ≤ 0x0D) || (0x2000 ≤ c.toNat && c.toNat ≤ 0x200A) ||
    [0x20, 0x85, 0xA0, 0x1680, 0x2028, 0x2029, 0x202F, 0x205F, 0x3000, 0xFEFF].contains c.toNat

/-- `String.trim`. -/
def trim (s : String) : String := .ofList (SplitJoin.trim isTrimmed s.toList)

/-- `String.split` at a character. -/
def split (s : String) (c : Char) : List String := (s.toList.splitOn c).map .ofList

end Dart

namespace Carros

open Dart

variable {δ : Type*}

namespace DatabaseHelper

/-- What `_onCreate` has done when it ends: the statements the database has carried out, in order,
the statement it refused, and the database. -/
structure Criacao (δ : Type*) where
  executados : List String
  recusado : Option (String × DartError)
  db : δ

/-- The loop of `_onCreate`. -/
def executar (execute : δ → String → Except DartError δ) : δ → List String → Criacao δ
  | db, [] => ⟨[], none, db⟩
  | db, sql :: sqls =>
    if !(trim sql).isEmpty then
      match execute db sql with
      | .error e => ⟨[], some (sql, e), db⟩
      | .ok db' =>
        let criacao := executar execute db' sqls
        { criacao with executados := sql :: criacao.executados }
    else executar execute db sqls

/-- `_onCreate`, from the text of the asset on. -/
def onCreate (execute : δ → String → Except DartError δ) (s : String) (db : δ) : Criacao δ :=
  executar execute db (split s ';')

/-- A statement: it is not blank, and has no semicolon. -/
def Comando (sql : String) : Prop := ';' ∉ sql.toList ∧ trim sql ≠ ""

/-- The text is a script of the statements: one or more semicolons between two of them, white space
around each semicolon, and both also before the first statement and after the last. -/
def Roteiro (comandos : List String) (s : String) : Prop :=
  SplitJoin.Script ';' isTrimmed (comandos.map String.toList) s.toList

/-- The statements were carried out in order, up to white space around them: all of them, or those
before the first one the database refused. -/
structure Executados (execute : δ → String → Except DartError δ) (comandos : List String) (db : δ)
    (criacao : Criacao δ) : Prop where
  efeito : criacao.executados.foldlM execute db = .ok criacao.db
  todos : criacao.recusado = none → criacao.executados.map trim = comandos.map trim
  antes : ∀ sql e, criacao.recusado = some (sql, e) → execute criacao.db sql = .error e ∧
    ∃ antes comando depois, comandos = antes ++ comando :: depois ∧ trim sql = trim comando ∧
      criacao.executados.map trim = antes.map trim

variable {execute : δ → String → Except DartError δ}

/-- Blank parts are skipped. -/
lemma executar_filter (db : δ) (sqls : List String) :
    executar execute db (sqls.filter fun sql => !(trim sql).isEmpty) =
      executar execute db sqls := by
  induction sqls generalizing db with
  | nil => rfl
  | cons sql sqls ih =>
    by_cases hsql : (trim sql).isEmpty
    · rw [List.filter_cons_of_neg (by simp [hsql]), ih, executar, if_neg (by simp [hsql])]
    · rw [List.filter_cons_of_pos (by simp [hsql]), executar, executar]
      simp only [ih]

/-- A list of statements is executed in order. -/
lemma executados_executar {sqls comandos : List String} (hsqls : ∀ sql ∈ sqls, trim sql ≠ "")
    (htrim : sqls.map trim = comandos.map trim) (db : δ) :
    Executados execute comandos db (executar execute db sqls) := by
  induction sqls generalizing comandos db with
  | nil => exact ⟨rfl, fun _ => htrim, fun sql e h => (by cases h)⟩
  | cons sql sqls ih =>
    obtain ⟨hsql, hsqls⟩ := List.forall_mem_cons.mp hsqls
    obtain ⟨comando, comandos, rfl⟩ : ∃ c cs, comandos = c :: cs := by
      cases comandos with
      | nil => cases htrim
      | cons c cs => exact ⟨c, cs, rfl⟩
    obtain ⟨hhead, htail⟩ := List.cons.inj htrim
    rw [executar, if_pos (by simpa using hsql)]
    cases hexecute : execute db sql with
    | error e =>
      refine ⟨rfl, fun h => (by cases h), fun sql' e' h => ?_⟩
      obtain ⟨rfl, rfl⟩ := Prod.mk.inj (Option.some.inj h)
      exact ⟨hexecute, [], comando, comandos, rfl, hhead, rfl⟩
    | ok db' =>
      have hrest := ih hsqls htail db'
      refine ⟨?_, fun h => ?_, fun sql' e h => ?_⟩
      · rw [List.foldlM_cons, hexecute]
        exact hrest.efeito
      · exact congrArg₂ List.cons hhead (hrest.todos h)
      · obtain ⟨herror, antes, comando', depois, rfl, hsql', hantes⟩ := hrest.antes sql' e h
        exact ⟨herror, comando :: antes, comando', depois, rfl, hsql',
          congrArg₂ List.cons hhead hantes⟩

/-- The parts of a text that are not blank. -/
lemma filter_split (s : String) :
    (split s ';').filter (fun sql => !(trim sql).isEmpty) =
      (SplitJoin.pieces ';' isTrimmed s.toList).map String.ofList := by
  rw [split, List.filter_map, SplitJoin.pieces]
  refine congrArg (List.map String.ofList) (List.filter_congr fun p _ => ?_)
  rw [Bool.eq_iff_iff]
  simp [trim]

/-- The parts of a script that are not blank are its statements, up to white space around them. -/
lemma map_trim_filter_split {comandos : List String} {s : String} (h : Roteiro comandos s)
    (hcomandos : ∀ sql ∈ comandos, Comando sql) :
    ((split s ';').filter fun sql => !(trim sql).isEmpty).map trim = comandos.map trim := by
  have hitems : ∀ p ∈ comandos.map String.toList, SplitJoin.Item ';' isTrimmed p := by
    intro p hp
    obtain ⟨sql, hsql, rfl⟩ := List.mem_map.mp hp
    obtain ⟨hsep, htrim⟩ := hcomandos sql hsql
    exact ⟨hsep, fun hblank => htrim (by rw [trim, hblank])⟩
  have hpieces := congrArg (List.map String.ofList) (SplitJoin.map_trim_pieces h hitems)
  rw [List.map_map, List.map_map, List.map_map] at hpieces
  rw [filter_split, List.map_map]
  refine Eq.trans ?_ hpieces
  exact List.map_congr_left fun p _ => by simp [trim]

end DatabaseHelper

open DatabaseHelper in
/-- **The schema script is executed statement by statement.**  For every script of statements,
`_onCreate` executes the statements in order, each once, and nothing else; if one of them fails,
exactly those before it have been carried out. -/
theorem onCreate_roteiro (execute : δ → String → Except DartError δ) {comandos : List String}
    (hcomandos : ∀ sql ∈ comandos, Comando sql) {s : String} (hs : Roteiro comandos s) (db : δ) :
    Executados execute comandos db (onCreate execute s db) := by
  have hblank : ∀ sql ∈ (split s ';').filter fun sql => !(trim sql).isEmpty, trim sql ≠ "" := by
    intro sql hsql
    simpa using (List.mem_filter.mp hsql).2
  rw [onCreate, ← executar_filter]
  exact executados_executar hblank (map_trim_filter_split hs hcomandos) db

namespace DatabaseHelper

/-- The first statement of `assets/sql/create.sql`. -/
def tabelaCarro : String :=
  "CREATE TABLE carro(id INTEGER PRIMARY KEY, tipo TEXT, nome TEXT, descricao TEXT, " ++
    "urlFoto TEXT, urlVideo TEXT, latitude TEXT, longitude TEXT)"

/-- The second statement of `assets/sql/create.sql`. -/
def tabelaFavorito : String := "CREATE TABLE favorito(id INTEGER PRIMARY KEY, nome TEXT)"

/-- The third statement of `assets/sql/create.sql`. -/
def tabelaUsuario : String := "CREATE TABLE usuario(id INTEGER PRIMARY KEY, nome TEXT)"

/-- The text of `assets/sql/create.sql`. -/
def createSql : String :=
  tabelaCarro ++ ";\n" ++ tabelaFavorito ++ ";\n" ++ tabelaUsuario ++ ";"

/-- The asset is a script of its three statements. -/
lemma roteiro_createSql : Roteiro [tabelaCarro, tabelaFavorito, tabelaUsuario] createSql := by
  have hgap : SplitJoin.Gap ';' isTrimmed [';', '\n'] := by
    have hnewline : isTrimmed '\n' = true := by decide
    simp [SplitJoin.Gap, hnewline]
  refine ⟨[], _, [';'], by simp [SplitJoin.Gap],
    .cons _ hgap (by simp) (.cons _ hgap (by simp) (.single _)), by simp [SplitJoin.Gap], ?_⟩
  simp [createSql]

/-- The three statements of the asset are statements. -/
lemma comando_createSql : ∀ sql ∈ [tabelaCarro, tabelaFavorito, tabelaUsuario], Comando sql := by
  simp only [List.forall_mem_cons]
  exact ⟨⟨by decide +kernel, by decide +kernel⟩, ⟨by decide +kernel, by decide +kernel⟩,
    ⟨by decide +kernel, by decide +kernel⟩, by simp⟩

end DatabaseHelper

open DatabaseHelper in
/-- The asset, on a database that refuses the second statement. -/
theorem onCreate_roteiro_createSql :
    let execute : List String → String → Except DartError (List String) := fun db sql =>
      if db.length = 0 then .ok (db ++ [sql]) else .error .database
    Executados execute [tabelaCarro, tabelaFavorito, tabelaUsuario] []
      (onCreate execute createSql []) := by
  intro execute
  exact onCreate_roteiro execute comando_createSql roteiro_createSql []

end Carros
