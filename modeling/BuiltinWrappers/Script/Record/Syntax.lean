import BuiltinWrappers.Text.Octets

/-!
# Syntax of record scripts

A record script says by patterns what is done with each record of its input.
-/

namespace BuiltinWrappers.Script.Record

open Text (Octets)

mutual

inductive Expression where
  | number (value : Rat)
  | text (octets : Octets)
  | regex (source : Octets)
  | name (name : String)
  | field (index : Expression)
  | element (array : String) (indices : List Expression)
  | assign (target : Expression) (operator : String) (value : Expression)
  | stepped (target : Expression) (amount : Int) (before : Bool)
  | conditional (condition first second : Expression)
  | both (first second : Expression)
  | either (first second : Expression)
  | unary (operator : String) (operand : Expression)
  | binary (operator : String) (left right : Expression)
  | joined (left right : Expression)
  | comparison (operator : String) (left right : Expression)
  | matching (wanted : Bool) (subject pattern : Expression)
  | isIndex (indices : List Expression) (array : String)
  | call (function : String) (arguments : List Expression)
  | routine (name : String) (arguments : List Expression)
  | line (origin : Origin) (target : Option Expression)
  | group (inner : List Expression)

inductive Origin where
  | records
  | file (path : Expression)
  | command (text : Expression)

end

inductive Goal where
  | output
  | over (path : Expression)
  | behind (path : Expression)
  | command (text : Expression)

inductive Statement where
  | expression (expression : Expression)
  | print (formatted : Bool) (arguments : List Expression) (goal : Goal)
  | conditional (condition : Expression) (body otherwise : List Statement)
  | loop (condition : Expression) (body : List Statement)
  | loopAfter (body : List Statement) (condition : Expression)
  | counted (start : List Statement) (condition : Option Expression) (step body : List Statement)
  | each (name array : String) (body : List Statement)
  | leave
  | nextRound
  | nextRecord
  | nextFile
  | finish (status : Option Expression)
  | result (value : Option Expression)
  | delete (array : String) (indices : Option (List Expression))

inductive Pattern where
  | first
  | last
  | always
  | holds (condition : Expression)
  | range (start stop : Expression)

structure Rule where
  pattern : Pattern
  action : Option (List Statement)

structure Function where
  name : String
  parameters : List String
  body : List Statement

structure RuleSet where
  rules : List Rule := []
  functions : List Function := []

end BuiltinWrappers.Script.Record
