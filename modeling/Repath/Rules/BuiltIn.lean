import Repath.Rules.Table

namespace Repath.BuiltIn

/-- The part of an import before its path, with the opening quote. -/
def importStart : String :=
  "((?:\\bfrom|\\bimport)\\s+['\"]|\\b(?:require|import|jest\\.mock)\\(\\s*['\"])"

/-- The groups, each with the modules that moved below it. -/
def movedModules : List (String × List String) := [
  ("infraestrutura", ["email", "auditoria", "common"]),
  ("autenticacao", ["auth", "perfil", "usuarios"]),
  ("cadastros", ["empresas", "pacientes", "profissionais", "unidade-saude"]),
  ("relacionamento",
    ["convenios", "fornecedores", "laboratorios", "prestadores-servico", "telemedicina"]),
  ("atendimento", ["agendas", "caixa", "fila-atendimento"])]

/-- A pattern for any of the names, earlier ones preferred. -/
def alternation (names : List String) : String :=
  "|".intercalate (names.map escapeText)

def moduleRule (group : String) (modules : List String) : RuleSpec where
  pattern := importStart ++ "\\.\\./(" ++ alternation modules ++ ")([/'\"])"
  replacement := "$\x7b1\x7d../../../" ++ group ++ "/$\x7b2\x7d$\x7b3\x7d"

def groupRule (groups : List String) : RuleSpec where
  pattern := importStart ++ "\\.\\./\\.\\./(" ++ alternation groups ++ ")([/'\"])"
  replacement := "$\x7b1\x7d../../../$\x7b2\x7d$\x7b3\x7d"

def rules : List RuleSpec :=
  movedModules.map (fun (group, modules) => moduleRule group modules)
    ++ [groupRule (movedModules.map (·.1))]

def root : String := "src/modules"

def extension : String := ".ts"

end Repath.BuiltIn
