import DocSite.Text.Basic

/-!
# Programming languages

The languages whose code can be coloured, with the class of their outermost scope and the file
extensions that name them.
-/

namespace DocSite.Code

/-- A language. -/
structure Language where
  /-- Its name. -/
  name : String
  /-- The classes of its outermost scope. -/
  scope : String
  /-- The file extensions that name it. -/
  extensions : List String

/-- The known languages. -/
def languages : List Language := [
  ⟨"Plain Text", "hl-text hl-plain", ["txt"]⟩,
  ⟨"ASP", "hl-source hl-asp", ["asa"]⟩,
  ⟨"HTML (ASP)", "hl-text hl-html hl-asp", ["asp"]⟩,
  ⟨"ActionScript", "hl-source hl-actionscript hl-2", ["as"]⟩,
  ⟨"AppleScript", "hl-source hl-applescript", ["applescript", "script editor"]⟩,
  ⟨"Batch File", "hl-source hl-dosbatch", ["bat", "cmd"]⟩,
  ⟨"NAnt Build File", "hl-source hl-nant-build", ["build"]⟩,
  ⟨"C#", "hl-source hl-cs", ["cs", "csx"]⟩,
  ⟨"C++", "hl-source hl-c++", [
    "cpp", "cc", "cp", "cxx", "c++", "C", "h", "hh", "hpp", "hxx", "h++", "inl", "ipp"]⟩,
  ⟨"C", "hl-source hl-c", ["c", "h"]⟩,
  ⟨"CSS", "hl-source hl-css", ["css", "css.erb", "css.liquid"]⟩,
  ⟨"Clojure", "hl-source hl-clojure", ["clj"]⟩,
  ⟨"D", "hl-source hl-d", ["d", "di"]⟩,
  ⟨"Diff", "hl-source hl-diff", ["diff", "patch"]⟩,
  ⟨"Erlang", "hl-source hl-erlang", ["erl", "hrl", "Emakefile", "emakefile"]⟩,
  ⟨"HTML (Erlang)", "hl-text hl-html hl-erlang hl-yaws", ["yaws"]⟩,
  ⟨"Go", "hl-source hl-go", ["go"]⟩,
  ⟨"Graphviz (DOT)", "hl-source hl-dot", ["dot", "DOT", "gv"]⟩,
  ⟨"Groovy", "hl-source hl-groovy", ["groovy", "gvy", "gradle"]⟩,
  ⟨"HTML", "hl-text hl-html hl-basic", ["html", "htm", "shtml", "xhtml", "inc", "tmpl", "tpl"]⟩,
  ⟨"Haskell", "hl-source hl-haskell", ["hs"]⟩,
  ⟨"Literate Haskell", "hl-text hl-tex hl-latex hl-haskell", ["lhs"]⟩,
  ⟨"Java Server Page (JSP)", "hl-text hl-html hl-jsp", ["jsp"]⟩,
  ⟨"Java", "hl-source hl-java", ["java", "bsh"]⟩,
  ⟨"JavaDoc", "hl-text hl-html hl-javadoc", []⟩,
  ⟨"Java Properties", "hl-source hl-java-props", ["properties"]⟩,
  ⟨"JSON", "hl-source hl-json", [
    "json", "sublime-settings", "sublime-menu", "sublime-keymap", "sublime-mousemap",
    "sublime-theme", "sublime-build", "sublime-project", "sublime-completions",
    "sublime-commands", "sublime-macro", "sublime-color-scheme"]⟩,
  ⟨"JavaScript", "hl-source hl-js", ["js", "htc"]⟩,
  ⟨"Regular Expressions (Javascript)", "hl-source hl-regexp hl-js", []⟩,
  ⟨"BibTeX", "hl-text hl-bibtex", ["bib"]⟩,
  ⟨"LaTeX Log", "hl-text hl-log hl-latex", []⟩,
  ⟨"LaTeX", "hl-text hl-tex hl-latex", ["tex", "ltx"]⟩,
  ⟨"TeX", "hl-text hl-tex", ["sty", "cls"]⟩,
  ⟨"Lisp", "hl-source hl-lisp", [
    "lisp", "cl", "clisp", "l", "mud", "el", "scm", "ss", "lsp", "fasl"]⟩,
  ⟨"Lua", "hl-source hl-lua", ["lua"]⟩,
  ⟨"Make Output", "hl-source hl-build_output", []⟩,
  ⟨"Makefile", "hl-source hl-makefile", [
    "make", "GNUmakefile", "makefile", "Makefile", "OCamlMakefile", "mak", "mk"]⟩,
  ⟨"Markdown", "hl-text hl-html hl-markdown", ["md", "mdown", "markdown", "markdn"]⟩,
  ⟨"MultiMarkdown", "hl-text hl-html hl-markdown hl-multimarkdown", []⟩,
  ⟨"MATLAB", "hl-source hl-matlab", ["matlab"]⟩,
  ⟨"OCaml", "hl-source hl-ocaml", ["ml", "mli"]⟩,
  ⟨"OCamllex", "hl-source hl-ocamllex", ["mll"]⟩,
  ⟨"OCamlyacc", "hl-source hl-ocamlyacc", ["mly"]⟩,
  ⟨"camlp4", "hl-source hl-camlp4 hl-ocaml", []⟩,
  ⟨"Objective-C++", "hl-source hl-objc++", ["mm", "M", "h"]⟩,
  ⟨"Objective-C", "hl-source hl-objc", ["m", "h"]⟩,
  ⟨"PHP Source", "hl-source hl-php", []⟩,
  ⟨"PHP", "hl-embedding hl-php", [
    "php", "php3", "php4", "php5", "php7", "phps", "phpt", "phtml"]⟩,
  ⟨"Pascal", "hl-source hl-pascal", ["pas", "p", "dpr"]⟩,
  ⟨"Perl", "hl-source hl-perl", ["pl", "pm", "pod", "t", "PL"]⟩,
  ⟨"Python", "hl-source hl-python", [
    "py", "py3", "pyw", "pyi", "pyx", "pyx.in", "pxd", "pxd.in", "pxi", "pxi.in", "rpy",
    "cpy", "SConstruct", "Sconstruct", "sconstruct", "SConscript", "gyp", "gypi",
    "Snakefile", "wscript"]⟩,
  ⟨"Regular Expressions (Python)", "hl-source hl-regexp hl-python", []⟩,
  ⟨"R Console", "hl-source hl-r-console", []⟩,
  ⟨"R", "hl-source hl-r", ["R", "r", "s", "S", "Rprofile"]⟩,
  ⟨"Rd (R Documentation)", "hl-text hl-tex hl-latex hl-rd", ["rd"]⟩,
  ⟨"HTML (Rails)", "hl-text hl-html hl-ruby", ["rails", "rhtml", "erb", "html.erb"]⟩,
  ⟨"JavaScript (Rails)", "hl-source hl-js hl-rails", ["js.erb"]⟩,
  ⟨"Ruby Haml", "hl-text hl-haml", ["haml", "sass"]⟩,
  ⟨"Ruby on Rails", "hl-source hl-ruby hl-rails", ["rxml", "builder"]⟩,
  ⟨"SQL (Rails)", "hl-source hl-sql hl-ruby", ["erbsql", "sql.erb"]⟩,
  ⟨"Regular Expression", "hl-source hl-regexp", ["re"]⟩,
  ⟨"reStructuredText", "hl-text hl-restructuredtext", ["rst", "rest"]⟩,
  ⟨"Ruby", "hl-source hl-ruby", [
    "rb", "Appfile", "Appraisals", "Berksfile", "Brewfile", "capfile", "cgi", "Cheffile",
    "config.ru", "Deliverfile", "Fastfile", "fcgi", "Gemfile", "gemspec", "Guardfile",
    "irbrc", "jbuilder", "podspec", "prawn", "rabl", "rake", "Rakefile", "Rantfile", "rbx",
    "rjs", "ruby.rail", "Scanfile", "simplecov", "Snapfile", "thor", "Thorfile",
    "Vagrantfile"]⟩,
  ⟨"Cargo Build Results", "hl-source hl-build_results", []⟩,
  ⟨"Rust", "hl-source hl-rust", ["rs"]⟩,
  ⟨"SQL", "hl-source hl-sql", ["sql", "ddl", "dml"]⟩,
  ⟨"Scala", "hl-source hl-scala", ["scala", "sbt"]⟩,
  ⟨"Bourne Again Shell (bash)", "hl-source hl-shell hl-bash", [
    "sh", "bash", "zsh", "fish", ".bash_aliases", ".bash_completions", ".bash_functions",
    ".bash_login", ".bash_logout", ".bash_profile", ".bash_variables", ".bashrc",
    ".profile", ".textmate_init"]⟩,
  ⟨"Shell-Unix-Generic", "hl-source hl-shell", []⟩,
  ⟨"commands-builtin-shell-bash", "hl-commands hl-builtin hl-shell hl-bash", []⟩,
  ⟨"HTML (Tcl)", "hl-text hl-html hl-tcl", ["adp"]⟩,
  ⟨"Tcl", "hl-source hl-tcl", ["tcl"]⟩,
  ⟨"Textile", "hl-text hl-html hl-textile", ["textile"]⟩,
  ⟨"XML", "hl-text hl-xml", ["xml", "xsd", "xslt", "tld", "dtml", "rss", "opml", "svg"]⟩,
  ⟨"YAML", "hl-source hl-yaml", ["yaml", "yml", "sublime-syntax"]⟩]

/-- Whether one of the extensions of a language is the given word, ignoring ASCII case. -/
def Language.hasExtension (word : Text) (language : Language) : Bool :=
  language.extensions.any fun extension => Text.equalsIgnoringCase extension.toList word

/-- The language that a word names: the last one with such an extension, or else the last one with
such a name, in both cases ignoring the case of ASCII letters. -/
def findLanguage (word : Text) : Option Language :=
  (languages.reverse.find? (Language.hasExtension word)).or
    (languages.reverse.find? fun language => Text.equalsIgnoringCase language.name.toList word)

end DocSite.Code
