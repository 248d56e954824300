import Mathlib.Data.List.Basic
import Mathlib.Tactic.Common

namespace ExtUnix.Ppx

/-! The part of the parse tree that `ppx_have` looks at. -/

inductive Longident where
  | lident (name : String)
  | dotted (path : List String)

inductive CondExpr where
  | construct (ident : Longident) (argument : Bool)
  | tuple (args : List CondExpr)
  | other

/-- The first structure item of a payload. -/
inductive Cond where
  | eval (expr : CondExpr)
  | other

inductive Label where
  | nolabel
  | labelled (name : String)
  | optional (name : String)
  deriving DecidableEq

inductive CoreType where
  | arrow (label : Label) (argument result : CoreType)
  | option (argument : CoreType)
  | other (text : String)
  deriving DecidableEq

inductive Expr where
  | func (label : Label) (argument : CoreType) (body : Expr)
  | constrained (body : Expr) (type : CoreType)
  | raiseNotAvailable (name : String)
  | cases (cases : List (String × Bool))
  | other (text : String)
  deriving DecidableEq

structure External where
  name : String
  type : CoreType
  prims : List String
  attributes : List String
  deriving DecidableEq

structure ValueBinding where
  name : String
  expr : Expr
  attributes : List String
  deriving DecidableEq

/-- An attribute; `payload` is `none` when it is not a structure. -/
structure Attribute where
  name : String
  payload : Option (List Cond)

structure Constructor where
  name : String
  arguments : String
  attributes : List Attribute

structure TypeDeclaration where
  name : String
  constructors : List Constructor

inductive Item where
  | primitive (external : External)
  | value (recursive : Bool) (bindings : List ValueBinding)
  | types (declarations : List TypeDeclaration)
  | module (name : String) (items : List Item)
  | have_ (cond : Cond) (items : List Item)
  | showMeTheMoney (doc : String)
  | other (text : String)

section Conditions

variable (feature : String → Option Bool)

def check (name : String) : Except String Bool :=
  match feature name with
  | none => .error ("Unregistered feature " ++ name)
  | some available => .ok available

def atomOfExpr : CondExpr → Except String String
  | .construct (.lident name) false => .ok name
  | _ => .error "have: atom_of_expr"

def conjOfExpr : CondExpr → Except String (List String)
  | .construct ident argument => do
      return [← atomOfExpr (.construct ident argument)]
  | .tuple args => args.mapM atomOfExpr
  | .other => .error "have: conj_of_expr"

def disjOfExpr : CondExpr → Except String (List (List String))
  | .construct ident argument => do
      return [[← atomOfExpr (.construct ident argument)]]
  | .tuple args => args.mapM conjOfExpr
  | .other => .error "have: disj_of_expr"

def evalCond : Cond → Except String Bool
  | .eval expr => do
      (← disjOfExpr expr).anyM fun conj => conj.allM (check feature)
  | .other => .error "have: eval_cond"

end Conditions

end ExtUnix.Ppx
