import NodeBootstrap.Bootstrap.Program

/-! # Scripted member APIs

A script holds the answers to come. The last answer is given for ever. -/

namespace NodeBootstrap

structure MemberScript where
  lists : List (Except Error (List Member)) := []
  additions : List (Except Error Member) := []
  reads : List (Except Error Unit) := []

namespace MemberScript

def exhausted : Error := .other "script is empty"

/-- The next answer, and the answers after it. -/
def next {α : Type} : List (Except Error α) → Except Error α × List (Except Error α)
  | [] => (.error exhausted, [])
  | [last] => (last, [last])
  | answer :: rest => (answer, rest)

def api : MemberApi MemberScript
  | .list, s => ⟨(next s.lists).1, [], { s with lists := (next s.lists).2 }⟩
  | .add _, s => ⟨(next s.additions).1, [], { s with additions := (next s.additions).2 }⟩
  | .keys, s => ⟨(next s.reads).1, [], { s with reads := (next s.reads).2 }⟩

/-- Surroundings in which nothing can be launched. -/
def surroundings : Surroundings MemberScript where
  cluster := api
  ownNode := api
  launch _ s := ⟨.error exhausted, [], s⟩
  pid _ := none
  sleep _ s := s

end MemberScript

end NodeBootstrap
