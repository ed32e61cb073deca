import SourceGen.Validation.Signatures

/-!
# Rules for classes

Within a namespace the classes are told apart by their names, within a class the members, and the init
list of a constructor names members. Circles among the requirements are left to the ordering of the
classes.
-/

namespace SourceGen.Validation

open Spec Text

def classNameProblems (seen : List String) (namespaceName path name : String) : List Problem :=
  if !isIdentifier name then [⟨path, .invalidClass name⟩]
  else if name ∈ seen then [⟨path, .repeatedClass name namespaceName⟩]
  else []

def requiresProblems (path : String) (cls : ClassDecl) : List Problem :=
  if cls.name ∈ cls.requires then [⟨path ++ ".requires", .requiresItself cls.name⟩] else []

def memberNameProblems (seen : List String) (path className name : String) : List Problem :=
  if !isIdentifier name then [⟨path ++ ".members", .invalidMember name className⟩]
  else if name ∈ seen then [⟨path ++ ".members", .repeatedMember name className⟩]
  else []

/-- The problems of the remaining members, `seen` being the names before them. -/
def membersProblemsFrom (seen : List String) (path className : String) :
    List Argument → List Problem
  | [] => []
  | member :: rest =>
    memberNameProblems seen path className member.name ++
      membersProblemsFrom (seen ++ [member.name]) path className rest

/-- The members that an init list may name. -/
def memberNames (cls : ClassDecl) : List String :=
  (cls.members.map (·.name)).filter isIdentifier

def initListProblems (path : String) (cls : ClassDecl) : List Problem :=
  match cls.init with
  | none => []
  | some init =>
    init.initList.keys.flatMap fun key ↦
      if key ∈ memberNames cls then []
      else [⟨path ++ ".init.initlist." ++ key, .unknownMember key cls.name⟩]

def classProblems (seen : List String) (namespaceName path : String) (cls : ClassDecl) :
    List Problem :=
  classNameProblems seen namespaceName path cls.name ++ requiresProblems path cls ++
    membersProblemsFrom [] path cls.name cls.members ++ initListProblems path cls

/-- The problems of the classes from number `i` on, `seen` being the names before them. -/
def classesProblemsFrom (seen : List String) (namespaceName : String) (i : Nat) :
    List ClassDecl → List Problem
  | [] => []
  | cls :: rest =>
    classProblems seen namespaceName
        (indexed ("$.api.namespaces." ++ namespaceName ++ ".classes") i) cls ++
      classesProblemsFrom (seen ++ [cls.name]) namespaceName (i + 1) rest

def classesProblems (document : Document) : List Problem :=
  (document.api.map fun api ↦
    api.namespaces.entries.flatMap fun entry ↦
      classesProblemsFrom [] entry.1 0 entry.2.classes).getD []

end SourceGen.Validation
