/-!
# The template of the documentation page

The page as lines of fixed text with holes. A hole names what stands in it, so that a filled page is
made in one pass and a value never counts as template.
-/

namespace RouteAtlas.Server

/-- What the page leaves open. -/
inductive PageHole where
  | title
  | version
  | theme
  | primaryColor
  /-- The image of the icon, if there is one. -/
  | icon
  | specUrl
  | collectionUrl
  /-- Where the mock server answers, if it does. -/
  | mockStart
deriving Repr, DecidableEq, Inhabited

/-- Fixed text or a hole. -/
inductive PagePart where
  | text (s : String)
  | hole (h : PageHole)
deriving Repr, DecidableEq, Inhabited

/-- The parts of a line. -/
abbrev PageLine := List PagePart

/-- The lines before the style rules. -/
def headLines : List PageLine := [
  [.text "<!DOCTYPE html>"],
  [.text "<html lang=\"en\">"],
  [.text "<head>"],
  [.text "  <meta charset=\"utf-8\" />"],
  [.text "  <meta name=\"viewport\" content=\"width=device-width, initial-scale=1\" />"],
  [.text "  <title>", .hole .title, .text " - API Docs</title>"],
  [.text "  <style>"],
  [.text "    :root \x7b --primary: ", .hole .primaryColor, .text "; \x7d"]]

/-- The style rules. -/
def styleLines : List String := [
  "    body \x7b margin: 0; font-family: system-ui, -apple-system, \"Segoe UI\", sans-serif;" ++
    " \x7d",
  "    body.classic \x7b background: #fafafa; color: #1f2933; \x7d",
  "    body.futuristic \x7b background: #0b0f1a; color: #e4e7eb; \x7d",
  "    header \x7b display: flex; align-items: center; gap: 12px; padding: 20px 32px;" ++
    " border-bottom: 2px solid var(--primary); \x7d",
  "    header .icon \x7b width: 32px; height: 32px; \x7d",
  "    header h1 \x7b margin: 0; font-size: 22px; \x7d",
  "    header .version \x7b opacity: 0.6; font-size: 14px; \x7d",
  "    header nav \x7b margin-left: auto; display: flex; gap: 16px; \x7d",
  "    a \x7b color: var(--primary); \x7d",
  "    main \x7b max-width: 1000px; margin: 0 auto; padding: 24px 32px; \x7d",
  "    h2 \x7b border-bottom: 1px solid rgba(127, 127, 127, 0.3); padding-bottom: 6px;" ++
    " text-transform: capitalize; \x7d",
  "    .operation \x7b display: flex; align-items: baseline; gap: 12px; padding: 8px 12px;" ++
    " margin: 6px 0; border-radius: 6px; background: rgba(127, 127, 127, 0.08); \x7d",
  "    .futuristic .operation \x7b box-shadow: 0 0 8px rgba(0, 242, 255, 0.08); \x7d",
  "    .method \x7b min-width: 64px; font-weight: 700; font-size: 12px; text-align: center;" ++
    " padding: 3px 6px; border-radius: 4px; color: #fff; \x7d",
  "    .method.get \x7b background: #2f80ed; \x7d",
  "    .method.post \x7b background: #27ae60; \x7d",
  "    .method.put \x7b background: #f2994a; \x7d",
  "    .method.patch \x7b background: #9b51e0; \x7d",
  "    .method.delete \x7b background: #eb5757; \x7d",
  "    .path \x7b font-family: ui-monospace, monospace; \x7d",
  "    .summary \x7b opacity: 0.7; font-size: 14px; \x7d",
  "    pre \x7b background: rgba(127, 127, 127, 0.12); padding: 12px; border-radius: 6px;" ++
    " overflow-x: auto; \x7d"]

/-- The lines between the style rules and the script. -/
def bodyLines : List PageLine := [
  [.text "  </style>"],
  [.text "</head>"],
  [.text "<body class=\"", .hole .theme, .text "\">"],
  [.text "  <header>"],
  [.text "    ", .hole .icon],
  [.text "    <h1>", .hole .title, .text "</h1>"],
  [.text "    <span class=\"version\">", .hole .version, .text "</span>"],
  [.text "    <nav>"],
  [.text "      <a href=\"", .hole .specUrl, .text "\">OpenAPI JSON</a>"],
  [.text "      <a href=\"", .hole .collectionUrl, .text "\">Postman collection</a>"],
  [.text "    </nav>"],
  [.text "  </header>"],
  [.text "  <main>"],
  [.text "    <p id=\"mock-info\" data-prefix=\"", .hole .mockStart, .text "\"></p>"],
  [.text "    <div id=\"operations\">Loading...</div>"],
  [.text "    <h2>Schemas</h2>"],
  [.text "    <pre id=\"schemas\"></pre>"],
  [.text "  </main>"]]

/-- The script that shows a document. -/
def scriptLines : List String := [
  "  <script>",
  "    function el(tag, className, text) \x7b",
  "      var node = document.createElement(tag);",
  "      if (className) \x7b node.className = className; \x7d",
  "      if (text) \x7b node.textContent = text; \x7d",
  "      return node;",
  "    \x7d",
  "",
  "    function render(spec) \x7b",
  "      var groups = \x7b\x7d;",
  "      Object.keys(spec.paths).forEach(function (path) \x7b",
  "        var operations = spec.paths[path];",
  "        Object.keys(operations).forEach(function (method) \x7b",
  "          var op = operations[method];",
  "          var tag = (op.tags && op.tags[0]) || \"default\";",
  "          (groups[tag] = groups[tag] || []).push(\x7b method: method, path: path, op: op" ++
    " \x7d);",
  "        \x7d);",
  "      \x7d);",
  "",
  "      var container = document.getElementById(\"operations\");",
  "      container.textContent = \"\";",
  "      Object.keys(groups).forEach(function (tag) \x7b",
  "        container.appendChild(el(\"h2\", null, tag));",
  "        groups[tag].forEach(function (entry) \x7b",
  "          var row = el(\"div\", \"operation\");",
  "          row.appendChild(el(\"span\", \"method \" + entry.method," ++
    " entry.method.toUpperCase()));",
  "          row.appendChild(el(\"span\", \"path\", entry.path));",
  "          row.appendChild(el(\"span\", \"summary\", entry.op.description ||" ++
    " entry.op.summary));",
  "          container.appendChild(row);",
  "        \x7d);",
  "      \x7d);",
  "",
  "      document.getElementById(\"schemas\").textContent =",
  "        JSON.stringify(spec.components.schemas, null, 2);",
  "",
  "      var prefix = document.getElementById(\"mock-info\").dataset.prefix;",
  "      if (prefix) \x7b",
  "        document.getElementById(\"mock-info\").textContent =",
  "          \"Mock server: every route is also served with generated data under \" + prefix;",
  "      \x7d",
  "    \x7d",
  ""]

/-- The lines that start the script. -/
def tailLines : List PageLine := [
  [.text "    fetch(\"", .hole .specUrl, .text "\")"],
  [.text "      .then(function (response) \x7b return response.json(); \x7d)"],
  [.text "      .then(render)"],
  [.text "      .catch(function (error) \x7b"],
  [.text "        document.getElementById(\"operations\").textContent = ",
    .text "\"Failed to load spec: \" + error;"],
  [.text "      \x7d);"],
  [.text "  </script>"],
  [.text "</body>"],
  [.text "</html>"]]

/-- The lines of the page. -/
def pageTemplate : List PageLine :=
  headLines ++ styleLines.map ([.text ·]) ++ bodyLines ++ scriptLines.map ([.text ·]) ++ tailLines

end RouteAtlas.Server
