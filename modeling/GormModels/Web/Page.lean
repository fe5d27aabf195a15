import GormModels.Options

/-!
The page that lets a browser ask for Go source. It sends its form to the interface and shows the answer.
-/

namespace GormModels.Web

def version : String := "0.1.0"

def pageLines : List String := [
  "<!DOCTYPE html>",
  "<html lang=\"en\">",
  "<head>",
  "    <meta charset=\"utf-8\">",
  "    <title>SQL to GORM</title>",
  "    <style>",
  "        body \x7b font-family: sans-serif; margin: 2em; \x7d",
  "        textarea, pre \x7b width: 100%; box-sizing: border-box; font-family: monospace; \x7d",
  "        textarea \x7b height: 16em; \x7d",
  "        pre \x7b background: #f4f4f4; padding: 1em; min-height: 10em; \x7d",
  "        .options label \x7b margin-right: 1.5em; \x7d",
  "        .error \x7b color: #b00020; \x7d",
  "    </style>",
  "</head>",
  "<body>",
  "<h1>SQL to GORM <small>v" ++ version ++ "</small></h1>",
  "<textarea id=\"sql\" placeholder=\"CREATE TABLE ...\"></textarea>",
  "<div class=\"options\">",
  "    <label>package <input id=\"package\" value=\"" ++ ({} : Options).package ++ "\"></label>",
  "    <label>table prefix <input id=\"table_prefix\"></label>",
  "    <label>column prefix <input id=\"col_prefix\"></label>",
  "    <label>null style",
  "        <select id=\"null_style\">",
  "            <option value=\"\">default</option>",
  "            <option value=\"sql\">sql.NullXXX</option>",
  "            <option value=\"ptr\">*T</option>",
  "        </select>",
  "    </label>",
  "    <label><input type=\"checkbox\" id=\"json\"> json tag</label>",
  "    <label><input type=\"checkbox\" id=\"no_null\"> no null type</label>",
  "    <label><input type=\"checkbox\" id=\"gorm_type\"> type in tag</label>",
  "    <label><input type=\"checkbox\" id=\"force_tablename\"> TableName()</label>",
  "</div>",
  "<button id=\"convert\">Convert</button>",
  "<p id=\"error\" class=\"error\"></p>",
  "<pre id=\"code\"></pre>",
  "<script>",
  "document.getElementById(\"convert\").addEventListener(\"click\", async () => \x7b",
  "    const value = (id) => document.getElementById(id).value;",
  "    const checked = (id) => document.getElementById(id).checked ? \"true\" : \"false\";",
  "    const body = \x7b",
  "        sql: value(\"sql\"),",
  "        package: value(\"package\"),",
  "        table_prefix: value(\"table_prefix\"),",
  "        col_prefix: value(\"col_prefix\"),",
  "        null_style: value(\"null_style\"),",
  "        json: checked(\"json\"),",
  "        no_null: checked(\"no_null\"),",
  "        gorm_type: checked(\"gorm_type\"),",
  "        force_tablename: checked(\"force_tablename\"),",
  "    \x7d;",
  "    const response = await fetch(\"/api/parse\", \x7b",
  "        method: \"POST\",",
  "        headers: \x7b\"Content-Type\": \"application/json\"\x7d,",
  "        body: JSON.stringify(body),",
  "    \x7d);",
  "    const data = await response.json();",
  "    document.getElementById(\"error\").textContent = data.error || \"\";",
  "    document.getElementById(\"code\").textContent = data.code || \"\";",
  "\x7d);",
  "</script>",
  "</body>",
  "</html>"]

def page : String := "\n".intercalate pageLines

end GormModels.Web
