import TopDown.Emission.Code

/-!
# The fixed part of an emitted parser

The emitted module holds, besides its tables, the types of tokens, nodes and errors, and a parser
that reads its input and parses it with the tables. Only the parser's name varies.

* `typeItems` : tokens, nodes, errors and the wording of errors;
* `parserItems` : the parser's type, with `constructor`, `tokenizeMethod` and `parseMethod`;
* `supportItems` : the functions that the parser calls;
* `support name` : all of it as a text.
-/

namespace TopDown.Emission

/-- The longest name, in bytes, with which the parser is constructed on one line. -/
def longestInlineName : Nat := 25

/-- The expression that constructs the parser. -/
def construction (name : String) : Code :=
  if name.utf8ByteSize ≤ longestInlineName then .line ("Ok(" ++ name ++ " \x7b rules \x7d)")
  else .block ("Ok(" ++ name) [.line "rules,"] ")"

/-- Tokens, nodes, errors and the wording of errors. -/
def typeItems : List Code :=
  [
    .line "#[derive(Debug, Clone, PartialEq, Eq)]",
    .block "pub struct Token" [
      .line "pub terminal: usize,",
      .line "pub text: String,",
      .line "pub offset: usize,"] "",
    .line "#[derive(Debug, Clone, PartialEq, Eq)]",
    .block "pub struct Node" [
      .line "pub name: String,",
      .line "pub children: Vec<Node>,"] "",
    .line "#[derive(Debug, Clone, PartialEq, Eq)]",
    .block "pub enum Error" [
      .line "Pattern(String),",
      .line "NoMatch \x7b offset: usize, character: char \x7d,",
      .line "Syntax \x7b offset: usize, expected: Vec<String>, found: String \x7d,"] "",
    .block "impl ::std::fmt::Display for Error" [
      .block "fn fmt(&self, f: &mut ::std::fmt::Formatter) -> ::std::fmt::Result" [
        .block "match self" [
          .line "Error::Pattern(message) => write!(f, \"invalid pattern: \x7b\x7d\", message),",
          .block "Error::NoMatch \x7b offset, character \x7d =>" [
            .line ("write!(f, \"no lexical rule matches \x7b:?\x7d at offset \x7b\x7d\", " ++
              "character, offset)")] "",
          .block "Error::Syntax \x7b offset, expected, found \x7d =>" [
            .nest "write!(" [
              .line ("f, \"syntax error at offset \x7b\x7d: expected \x7b\x7d, found \x7b\x7d\", " ++
                "offset,"),
              .line "expected.join(\" or \"), found"] (some ")")] ""] ""] ""] "",
    .line "impl ::std::error::Error for Error \x7b\x7d"]

/-- Compiles the patterns of the rule table. -/
def constructor (name : String) : List Code :=
  [
    .block "pub fn new() -> Result<Self, Error>" [
      .line "let mut rules = Vec::with_capacity(RULES.len());",
      .block "for (_, pattern, terminal, priority) in RULES" [
        .nest "let regex = ::regex::Regex::new(pattern)" [
          .line ".map_err(|e| Error::Pattern(e.to_string()))?;"] none,
        .line "rules.push((regex, *terminal, *priority));"] "",
      construction name] ""]

/-- Reads a whole input by the longest match. -/
def tokenizeMethod : List Code :=
  [
    .line "/// Longest match wins. Equal lengths go to the lower priority,",
    .line "/// then to the earlier rule.",
    .block "pub fn tokenize(&self, input: &str) -> Result<Vec<Token>, Error>" [
      .line "let mut tokens = Vec::new();",
      .line "let mut offset = 0;",
      .block "while offset < input.len()" [
        .line "let rest = &input[offset..];",
        .line "let mut best: Option<(usize, Option<usize>, usize)> = None;",
        .block "for (regex, terminal, priority) in &self.rules" [
          .block "let len = match regex.find(rest)" [
            .line "Some(m) if m.end() > 0 => m.end(),",
            .line "_ => continue,"] ";",
          .block "let better = match best" [
            .line "None => true,",
            .block "Some((best_len, _, best_priority)) =>" [
              .line "len > best_len || (len == best_len && *priority < best_priority)"] ""] ";",
          .block "if better" [
            .line "best = Some((len, *terminal, *priority));"] ""] "",
        .block "match best" [
          .block "Some((len, terminal, _)) =>" [
            .block "if let Some(terminal) = terminal" [
              .nest "tokens" [
                .block ".push(Token" [
                  .line "terminal,",
                  .line "text: rest[..len].to_string(),",
                  .line "offset,"] ");"] none] "",
            .line "offset += len;"] "",
          .block "None =>" [
            .line "let character = rest.chars().next().unwrap_or_default();",
            .block "return Err(Error::NoMatch" [
              .line "offset,",
              .line "character,"] ");"] ""] ""] "",
      .line "Ok(tokens)"] ""]

/-- Parses an input with a stack of symbols and an array of nodes. -/
def parseMethod : List Code :=
  [
    .block "pub fn parse(&self, input: &str) -> Result<Node, Error>" [
      .line "let tokens = self.tokenize(input)?;",
      .nest "let mut nodes: Vec<(String, Vec<usize>)> = vec![" [
        .line "(NONTERMINALS[START].to_string(), Vec::new())"] (some "];"),
      .nest "let mut stack: Vec<(Option<Symbol>, usize)> = vec![" [
        .line "(None, 0), (Some(Symbol::Nonterminal(START)), 0)"] (some "];"),
      .line "let mut position = 0;",
      .block "while let Some((top, slot)) = stack.pop()" [
        .line "let lookahead = tokens.get(position);",
        .line "let offset = lookahead.map_or(input.len(), |token| token.offset);",
        .block "match top" [
          .block "None =>" [
            .block "return match lookahead" [
              .line "None => Ok(build(nodes)),",
              .block "Some(_) =>" [
                .nest "Err(" [
                  .line "syntax(vec![\"end of input\".to_string()], lookahead, offset),"]
                (some ")")] ""] ";"] "",
          .line "Some(Symbol::Empty) => \x7b\x7d",
          .block "Some(Symbol::Terminal(terminal)) =>" [
            .block "match lookahead" [
              .block "Some(token) if token.terminal == terminal =>" [
                .line "nodes[slot].0 = token.text.clone();",
                .line "position += 1;"] "",
              .block "_ =>" [
                .line "let expected = vec![format!(\"`\x7b\x7d`\", TERMINALS[terminal])];",
                .line "return Err(syntax(expected, lookahead, offset));"] ""] ""] "",
          .block "Some(Symbol::Nonterminal(nonterminal)) =>" [
            .line "let terminal = lookahead.map(|token| token.terminal);",
            .block "let production = match predict(nonterminal, terminal)" [
              .line "Some(production) => production,",
              .block "None =>" [
                .line "return Err(syntax(expected(nonterminal), lookahead, offset));"] ""] ";",
            .line "let (_, body) = PRODUCTIONS[production];",
            .line "let mut children = Vec::with_capacity(body.len());",
            .block "for symbol in body" [
              .block "let child = match *symbol" [
                .line "Symbol::Empty => 0,",
                .block "Symbol::Terminal(id) =>" [
                  .line "attach(&mut nodes, slot, TERMINALS[id])"] "",
                .block "Symbol::Nonterminal(id) =>" [
                  .line "attach(&mut nodes, slot, NONTERMINALS[id])"] ""] ";",
              .line "children.push((Some(*symbol), child));"] "",
            .line "stack.extend(children.into_iter().rev());"] ""] ""] "",
      .line "Ok(build(nodes))"] ""]

/-- The parser's type and its methods. -/
def parserItems (name : String) : List Code :=
  [
    .block ("pub struct " ++ name) [
      .line "rules: Vec<(::regex::Regex, Option<usize>, usize)>,"] "",
    .block ("impl " ++ name) (constructor name ++ tokenizeMethod ++ parseMethod) ""]

/-- The functions that the parser calls. -/
def supportItems : List Code :=
  [
    .block "fn attach(nodes: &mut Vec<(String, Vec<usize>)>, parent: usize, name: &str) -> usize" [
      .line "nodes.push((name.to_string(), Vec::new()));",
      .line "let child = nodes.len() - 1;",
      .line "nodes[parent].1.push(child);",
      .line "child"] "",
    .block "fn expected(nonterminal: usize) -> Vec<String>" [
      .nest "let mut out: Vec<String> = (0..TERMINALS.len())" [
        .line ".filter(|terminal| predict(nonterminal, Some(*terminal)).is_some())",
        .line ".map(|terminal| format!(\"`\x7b\x7d`\", TERMINALS[terminal]))",
        .line ".collect();"] none,
      .block "if predict(nonterminal, None).is_some()" [
        .line "out.push(\"end of input\".to_string());"] "",
      .line "out"] "",
    .block "fn syntax(expected: Vec<String>, lookahead: Option<&Token>, offset: usize) -> Error" [
      .block "let found = match lookahead" [
        .line "Some(token) => format!(\"`\x7b\x7d`\", token.text),",
        .line "None => \"end of input\".to_string(),"] ";",
      .block "Error::Syntax" [
        .line "offset,",
        .line "expected,",
        .line "found,"] ""] "",
    .block "fn build(nodes: Vec<(String, Vec<usize>)>) -> Node" [
      .line "let mut built: Vec<Option<Node>> = Vec::with_capacity(nodes.len());",
      .line "built.resize_with(nodes.len(), || None);",
      .block "for (i, (name, children)) in nodes.into_iter().enumerate().rev()" [
        .nest "let children = children" [
          .line ".iter()",
          .line ".filter_map(|child| built[*child].take())",
          .line ".collect();"] none,
        .line "built[i] = Some(Node \x7b name, children \x7d);"] "",
      .nest "built" [
        .line ".into_iter()",
        .line ".next()",
        .line ".flatten()",
        .block ".unwrap_or(Node" [
          .line "name: String::new(),",
          .line "children: Vec::new(),"] ")"] none] ""]

/-- The fixed part of an emitted parser as a text. -/
def support (name : String) : String :=
  Code.renderAll 0 (typeItems ++ parserItems name ++ supportItems)

end TopDown.Emission
