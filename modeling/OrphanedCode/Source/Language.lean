/-!
Source languages and file names.

A file's language follows from the extension of its name, compared with case: the name is the
last component of the path (trailing slashes and `.` components aside), and its extension is the
text after the last dot, provided that dot is not the name's first character. The names `.` and
`..` and a path without components have no extension.
-/

namespace OrphanedCode

/-- A language whose files the scanner reads. -/
inductive Language where
  | javascript
  | typescript
  | python
  | java
  | ruby
  | php
  | go
  | csharp
  | cpp
  | c
  | rust
  | kotlin
  | scala
  | swift
  deriving DecidableEq, Repr, Inhabited

namespace Language

/-- The lower-case name of a language. -/
def name : Language → String
  | .javascript => "javascript"
  | .typescript => "typescript"
  | .python => "python"
  | .java => "java"
  | .ruby => "ruby"
  | .php => "php"
  | .go => "go"
  | .csharp => "csharp"
  | .cpp => "cpp"
  | .c => "c"
  | .rust => "rust"
  | .kotlin => "kotlin"
  | .scala => "scala"
  | .swift => "swift"

/-- Every language, in the order of their declaration. -/
def every : List Language :=
  [.javascript, .typescript, .python, .java, .ruby, .php, .go, .csharp, .cpp, .c, .rust,
    .kotlin, .scala, .swift]

/-- The language named by its lower-case name. -/
def ofName? (s : String) : Option Language :=
  every.find? (·.name == s)

/-- Whether the extractor reads function declarations in this language. -/
def isScript : Language → Bool
  | .javascript => true
  | .typescript => true
  | _ => false

/-- The language of a file extension, compared with case. -/
def ofExtension? : String → Option Language
  | "js" => some .javascript
  | "jsx" => some .javascript
  | "ts" => some .typescript
  | "tsx" => some .typescript
  | "py" => some .python
  | "java" => some .java
  | "rb" => some .ruby
  | "php" => some .php
  | "go" => some .go
  | "cs" => some .csharp
  | "cpp" => some .cpp
  | "cc" => some .cpp
  | "cxx" => some .cpp
  | "c" => some .c
  | "rs" => some .rust
  | "kt" => some .kotlin
  | "scala" => some .scala
  | "swift" => some .swift
  | _ => none

end Language

end OrphanedCode
